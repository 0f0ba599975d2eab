import SmartCard.Proofs.FragmentedReading

/-!
# Two readers of the GDO file

The GDO file is read in one piece, any other file piece by piece. Where the loop over pieces gets by
with one read of at most 255 octets, both readers make the same two calls and have the same content.
Everywhere else the reader of the GDO file fails, after these two calls at the latest.
-/
namespace SmartCard

/-- The call reads octets of a file. -/
def Call.isRead : Call → Bool
  | read .. => true
  | _ => false

section
variable {ω ε Context Connection Application : Type}

namespace WholeFile

variable {S : Stack ω ε Context Connection Application} {k : Connection} {w w' w'' : ω}
  {info : FileInfo} {p : Octets} {ps : List Octets} {size : Nat}

/-! ## One read -/

/-- The number of reads among calls. -/
def readCount (t : Trace) : Nat := t.countP fun m => m.1.isRead

theorem readCount_reads (size start : Nat) (ps : List Octets) :
    readCount (reads size start ps .full) = ps.length := by
  induction ps generalizing start with
  | nil => rfl
  | cons p ps ih =>
    rw [reads, readCount, List.countP_cons_of_pos rfl, List.length_cons]
    exact congrArg (· + 1) (ih _)

/-- One piece that fills the file is one read of all of it. -/
theorem loop_singleton_iff (hsize : 0 < size) (hl : p.length = size) :
    Loop S k size 0 w [p] .full w' ↔ Answers (S.read k 0 size) w (.ok p) w' := by
  constructor
  · rintro (_ | _ | _ | ⟨-, hr, -, ⟨-⟩⟩)
    exact hr
  · intro hr
    have hp : p ≠ [] := List.length_pos_iff.mp (hl ▸ hsize)
    exact .piece hsize hr hp (.full (by omega))

/-! ## The GDO file -/

theorem isGdo_iff :
    isGdo info = true ↔ info.isTransparentWorking = true ∧ 0 < info.size ∧ info.size ≤ 255 := by
  rw [isGdo, Bool.and_eq_true, Bool.and_eq_true, decide_eq_true_iff, decide_eq_true_iff, gdoLimit,
    Nat.pos_iff_ne_zero, Nat.lt_succ_iff]

/-- A file of another kind or size is not read. -/
theorem run_readGdo_of_unsuitable (hs : Answers (S.select k gdoPath) w (.ok info) w')
    (hi : isGdo info = false) :
    let g := (readGdo S k).run w
    g.value = .error .cardError ∧ trace g.entries = [(.select gdoPath, none)] := by
  intro g
  have h : GdoReading S k w g.value (trace g.entries) g.world := readGdo_reading S k w
  generalize g.value = v at h
  generalize trace g.entries = t at h
  cases h with
  | unselected hs' => cases (hs.unique hs').1
  | unsuitable => exact ⟨rfl, rfl⟩
  | unread hs' hi' | partly hs' hi' | wholly hs' hi' =>
    obtain ⟨⟨⟩, -⟩ := hs.unique hs'
    cases hi.symm.trans hi'

/-- What one read of the file brings is its content if it has the right length. -/
theorem run_readGdo_of_read (hs : Answers (S.select k gdoPath) w (.ok info) w')
    (hi : isGdo info = true) (hr : Answers (S.read k 0 info.size) w' (.ok p) w'') :
    let g := (readGdo S k).run w
    g.value = ofLength info.size p ∧
      trace g.entries = [(.select gdoPath, none), (.read 0 info.size, none)] ∧ g.world = w'' := by
  intro g
  have h : GdoReading S k w g.value (trace g.entries) g.world := readGdo_reading S k w
  generalize g.value = v at h
  generalize trace g.entries = t at h
  generalize g.world = w₀ at h
  cases h with
  | unselected hs' => cases (hs.unique hs').1
  | unsuitable hs' hi' =>
    obtain ⟨⟨⟩, -⟩ := hs.unique hs'
    cases hi.symm.trans hi'
  | unread hs' _ hr' =>
    obtain ⟨⟨⟩, rfl⟩ := hs.unique hs'
    cases (hr.unique hr').1
  | partly hs' _ hr' hl =>
    obtain ⟨⟨⟩, rfl⟩ := hs.unique hs'
    obtain ⟨⟨⟩, rfl⟩ := hr.unique hr'
    exact ⟨(if_neg hl).symm, rfl, rfl⟩
  | wholly hs' _ hr' hl =>
    obtain ⟨⟨⟩, rfl⟩ := hs.unique hs'
    obtain ⟨⟨⟩, rfl⟩ := hr.unique hr'
    exact ⟨(if_pos hl).symm, rfl, rfl⟩

/-- A content comes from a suitable file and from one read of all of it. -/
theorem exists_of_readGdo (h : ((readGdo S k).run w).value = .ok p) :
    ∃ info w' w'', Answers (S.select k gdoPath) w (.ok info) w' ∧ isGdo info = true ∧
      Answers (S.read k 0 info.size) w' (.ok p) w'' ∧ p.length = info.size := by
  have hreading := readGdo_reading S k w
  rw [h] at hreading
  generalize trace ((readGdo S k).run w).entries = t at hreading
  cases hreading with
  | wholly hs hi hr hl => exact ⟨_, _, _, hs, hi, hr, hl⟩

/-- A failure is the same whatever the reason, and comes after one read of a suitable file at the
latest. -/
theorem readGdo_fails (h : ∀ b, ((readGdo S k).run w).value ≠ .ok b) :
    let g := (readGdo S k).run w
    g.value = .error .cardError ∧ ((∃ f, trace g.entries = [(.select gdoPath, f)]) ∨
      ∃ size f, 0 < size ∧ size ≤ 255 ∧
        trace g.entries = [(.select gdoPath, none), (.read 0 size, f)]) := by
  intro g
  have hreading : GdoReading S k w g.value (trace g.entries) g.world := readGdo_reading S k w
  change ∀ b, g.value ≠ .ok b at h
  generalize g.value = v at hreading h
  generalize trace g.entries = t at hreading
  cases hreading with
  | unselected | unsuitable => exact ⟨rfl, .inl ⟨_, rfl⟩⟩
  | unread _ hi | partly _ hi =>
    obtain ⟨-, hpos, hmax⟩ := isGdo_iff.mp hi
    exact ⟨rfl, .inr ⟨_, _, hpos, hmax, rfl⟩⟩
  | wholly => exact absurd rfl (h _)

/-! ## Any file -/

/-- A file that one read fills has what the read brings. -/
theorem run_read_of_read {path : Path} (hs : Answers (S.select k path) w (.ok info) w')
    (hi : info.isTransparentWorking = true) (hsize : 0 < info.size)
    (hr : Answers (S.read k 0 info.size) w' (.ok p) w'') (hl : p.length = info.size) :
    let r := (read S k path).run w
    r.value = .ok p ∧
      trace r.entries = [(.select path, none), (.read 0 info.size, none)] ∧ r.world = w'' := by
  have h := run_read hs hi hsize ((loop_singleton_iff hsize hl).mpr hr)
  have hflat : [p].flatten = p := List.flatten_singleton
  rwa [LoopEnd.result, hflat, if_pos hl] at h

/-- A content that took one read is what this read of the whole file brought. -/
theorem exists_of_read {path : Path} (h : ((read S k path).run w).value = .ok p)
    (hcount : readCount (trace ((read S k path).run w).entries) = 1) :
    ∃ info w' w'', Answers (S.select k path) w (.ok info) w' ∧ info.isTransparentWorking = true ∧
      0 < info.size ∧ Answers (S.read k 0 info.size) w' (.ok p) w'' ∧ p.length = info.size := by
  have hreading := fileReading_read S k path w
  generalize ((read S k path).run w).value = v at hreading h
  generalize trace ((read S k path).run w).entries = t at hreading hcount
  cases hreading with
  | unselected | unsuitable => cases h
  | @fragmented info ps e w' w'' hs htype hstructure hsize hl ho =>
    have hi := FileInfo.isTransparentWorking_iff.mpr ⟨htype, hstructure⟩
    obtain ⟨rfl, hlength, rfl⟩ := LoopEnd.full_of_result h
    have hone : ps.length = 1 := by
      rw [← readCount_reads info.size 0 ps]
      exact hcount
    obtain ⟨p, rfl⟩ := List.length_eq_one_iff.mp hone
    rw [List.flatten_singleton] at hlength ⊢
    exact ⟨info, w', _, hs, hi, hsize, (loop_singleton_iff hsize hlength).mp hl, hlength⟩

/-! ## The main result -/

/-- The GDO file has a content exactly if one read of at most 255 octets is enough for the loop over
its pieces. Both readers then make the same two calls and leave the same world. Without a content
there is one failure only, with a selection and at most one read of 1 to 255 octets before it: a
file of another kind or size is not read at all, and a read of another length is not repeated. -/
theorem readers_agree (S : Stack ω ε Context Connection Application) (k : Connection) (w : ω) :
    let g := (readGdo S k).run w
    let r := (read S k gdoPath).run w
    (∀ b, g.value = .ok b ↔
      r.value = .ok b ∧ b.length ≤ 255 ∧ readCount (trace r.entries) = 1) ∧
    (∀ b, g.value = .ok b →
      trace g.entries = [(.select gdoPath, none), (.read 0 b.length, none)] ∧
        trace r.entries = trace g.entries ∧ r.world = g.world) ∧
    ((∀ b, g.value ≠ .ok b) → g.value = .error .cardError ∧
      ((∃ f, trace g.entries = [(.select gdoPath, f)]) ∨
        ∃ size f, 0 < size ∧ size ≤ 255 ∧
          trace g.entries = [(.select gdoPath, none), (.read 0 size, f)])) ∧
    ∀ info w', Answers (S.select k gdoPath) w (.ok info) w' →
      (info.isTransparentWorking = false ∨ info.size = 0 ∨ 256 ≤ info.size →
        g.value = .error .cardError ∧ trace g.entries = [(.select gdoPath, none)]) ∧
      ∀ p w'', info.isTransparentWorking = true → 0 < info.size → info.size ≤ 255 →
        Answers (S.read k 0 info.size) w' (.ok p) w'' → p.length ≠ info.size →
          g.value = .error .cardError ∧
            trace g.entries = [(.select gdoPath, none), (.read 0 info.size, none)] := by
  intro g r
  have hboth {b : Octets} (h : g.value = .ok b) : r.value = .ok b ∧ b.length ≤ 255 ∧
      trace g.entries = [(.select gdoPath, none), (.read 0 b.length, none)] ∧
      trace r.entries = trace g.entries ∧ r.world = g.world := by
    obtain ⟨info, w', w'', hs, hi, hr, hl⟩ := exists_of_readGdo h
    obtain ⟨hkind, hpos, hmax⟩ := isGdo_iff.mp hi
    obtain ⟨-, htrace, hworld⟩ := run_readGdo_of_read hs hi hr
    obtain ⟨hvalue, htrace', hworld'⟩ := run_read_of_read hs hkind hpos hr hl
    exact ⟨hvalue, hl ▸ hmax, hl ▸ htrace, htrace'.trans htrace.symm, hworld'.trans hworld.symm⟩
  refine ⟨fun b => ⟨fun h => ?_, ?_⟩, fun b h => (hboth h).2.2, readGdo_fails, ?_⟩
  · obtain ⟨hvalue, hmax, htrace, htrace', -⟩ := hboth h
    exact ⟨hvalue, hmax, by rw [htrace', htrace]; rfl⟩
  · rintro ⟨hvalue, hmax, hcount⟩
    obtain ⟨info, w', w'', hs, hkind, hpos, hr, hl⟩ := exists_of_read hvalue hcount
    have hi : isGdo info = true := isGdo_iff.mpr ⟨hkind, hpos, hl ▸ hmax⟩
    exact (run_readGdo_of_read hs hi hr).1.trans (if_pos hl)
  · intro info w' hs
    refine ⟨fun hbad => run_readGdo_of_unsuitable hs ?_, ?_⟩
    · rw [Bool.eq_false_iff, ne_eq, isGdo_iff]
      rintro ⟨hkind, hpos, hmax⟩
      rcases hbad with hbad | hbad | hbad
      · cases hkind.symm.trans hbad
      · omega
      · omega
    · intro p w'' hkind hpos hmax hr hl
      obtain ⟨hvalue, htrace, -⟩ :=
        run_readGdo_of_read hs (isGdo_iff.mpr ⟨hkind, hpos, hmax⟩) hr
      exact ⟨hvalue.trans (if_neg hl), htrace⟩

end WholeFile

end

namespace Simulator

open WholeFile

/-- A card with a GDO file of a number of two octets, which is said to have `size` octets and is
served in pieces of at most `maxRead`. -/
def numbered (size maxRead : Nat) : Card :=
  ⟨true, [(gdoPath.text,
    ⟨[0x5A, 0x02, 0x12, 0x34], ⟨.workingEf, .transparent, size⟩, none, none, 0, maxRead, 0⟩)],
    none, []⟩

/-- The same file in one piece, in two pieces, and with too large a size. -/
theorem readers_agree_numbered :
    let g size maxRead := (readGdo stack ⟨0, 0⟩).run (.ofCards [some (numbered size maxRead)] none)
    let r size maxRead :=
      (read stack ⟨0, 0⟩ gdoPath).run (.ofCards [some (numbered size maxRead)] none)
    ((g 4 4).value = .ok [0x5A, 0x02, 0x12, 0x34] ∧
      trace (r 4 4).entries = [(.select gdoPath, none), (.read 0 4, none)]) ∧
    ((g 4 2).value = .error .cardError ∧ (r 4 2).value = .ok [0x5A, 0x02, 0x12, 0x34] ∧
      trace (g 4 2).entries = [(.select gdoPath, none), (.read 0 4, none)]) ∧
    (g 256 4).value = .error .cardError ∧ trace (g 256 4).entries = [(.select gdoPath, none)] := by
  intro g r
  let w size maxRead : World := .ofCards [some (numbered size maxRead)] none
  have hvalue : (r 4 4).value = .ok [0x5A, 0x02, 0x12, 0x34] := by decide +kernel
  obtain ⟨hiff, hsame, -⟩ := readers_agree stack ⟨0, 0⟩ (w 4 4)
  obtain ⟨-, -, -, hpieces⟩ := readers_agree stack ⟨0, 0⟩ (w 4 2)
  obtain ⟨-, -, -, hsize⟩ := readers_agree stack ⟨0, 0⟩ (w 256 4)
  have hread := (hiff _).mpr ⟨hvalue, by decide, by decide +kernel⟩
  obtain ⟨htrace, htrace', -⟩ := hsame _ hread
  obtain ⟨hshort, hshort'⟩ := (hpieces ⟨.workingEf, .transparent, 4⟩ _ ⟨rfl, rfl⟩).2 [0x5A, 0x02] _
    rfl (by decide) (by decide) ⟨rfl, rfl⟩ (by decide)
  obtain ⟨hlarge, hlarge'⟩ :=
    (hsize ⟨.workingEf, .transparent, 256⟩ _ ⟨rfl, rfl⟩).1 (.inr (.inr (by decide)))
  exact ⟨⟨hread, htrace'.trans htrace⟩, ⟨hshort, by decide +kernel, hshort'⟩, hlarge, hlarge'⟩

end Simulator

end SmartCard
