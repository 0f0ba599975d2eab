import SmartCard.Proofs.SerialKept

/-!
# Reading a file in pieces

The card decides how long each piece of a file is. The reading goes on behind the last piece until
nothing is missing, and it always ends, since a piece without octets ends it as well. Only pieces
that fill the file exactly make its content: too few octets are an error, and so are too many. A
file for which no buffer is large enough is the exception: there is no answer then.
-/
namespace SmartCard

theorem FileInfo.isTransparentWorking_iff {info : FileInfo} :
    info.isTransparentWorking = true ↔
      info.fileType = .workingEf ∧ info.efStructure = .transparent := by
  simp [isTransparentWorking]

theorem FileInfo.unsuitable_iff {info : FileInfo} :
    info.isTransparentWorking = false ∨ info.size = 0 ↔
      info.fileType ≠ .workingEf ∨ info.efStructure ≠ .transparent ∨ info.size = 0 := by
  rw [← Bool.not_eq_true, isTransparentWorking_iff, not_and_or, or_assoc]

section
variable {ω ε Context Connection Application : Type}

namespace WholeFile

/-! ## The loop -/

/-- Why no more is read. -/
inductive LoopEnd
  | full
  | empty
  | fault (f : Fault)

/-- The loop over reads of a file of `size` octets from `start` on: the pieces that it obtains in
their order, why it ends, and the world in which it does. Each read asks for all that is missing. -/
inductive Loop (S : Stack ω ε Context Connection Application) (k : Connection) (size : Nat) :
    Nat → ω → List Octets → LoopEnd → ω → Prop
  | full {start : Nat} {w : ω} (h : size ≤ start) : Loop S k size start w [] .full w
  | empty {start : Nat} {w w' : ω} (h : start < size)
      (hr : Answers (S.read k start (size - start)) w (.ok []) w') :
      Loop S k size start w [] .empty w'
  | fault {start : Nat} {w w' : ω} {f : Fault} (h : start < size)
      (hr : Answers (S.read k start (size - start)) w (.error f) w') :
      Loop S k size start w [] (.fault f) w'
  | piece {start : Nat} {w w' w'' : ω} {p : Octets} {ps : List Octets} {e : LoopEnd}
      (h : start < size) (hr : Answers (S.read k start (size - start)) w (.ok p) w') (hp : p ≠ [])
      (hl : Loop S k size (start + p.length) w' ps e w'') : Loop S k size start w (p :: ps) e w''

/-- The reads of the loop: one for each piece, and one more unless the file is full. -/
def reads (size : Nat) : Nat → List Octets → LoopEnd → Trace
  | _, [], .full => []
  | start, [], .empty => [(.read start (size - start), none)]
  | start, [], .fault f => [(.read start (size - start), some f)]
  | start, p :: ps, e => (.read start (size - start), none) :: reads size (start + p.length) ps e

/-- What the loop leaves to the caller. -/
def LoopEnd.content (ps : List Octets) : LoopEnd → Except Failure Octets
  | full | empty => .ok ps.flatten
  | fault f => .error (.ofFault f)

theorem LoopEnd.content_cons (p : Octets) (ps : List Octets) (e : LoopEnd) :
    e.content (p :: ps) = (e.content ps).map (p ++ ·) := by cases e <;> rfl

/-- The result of reading a file in these pieces. -/
def LoopEnd.result (size : Nat) (ps : List Octets) : LoopEnd → Except Failure Octets
  | full => if ps.flatten.length = size then .ok ps.flatten else .error .cardError
  | empty => .error .cardError
  | fault f => .error (.ofFault f)

theorem LoopEnd.full_of_result {size : Nat} {ps : List Octets} {e : LoopEnd} {content : Octets}
    (h : e.result size ps = .ok content) :
    e = .full ∧ ps.flatten.length = size ∧ content = ps.flatten := by
  cases e with
  | empty | fault => cases h
  | full =>
    by_cases hlength : ps.flatten.length = size
    · rw [result, if_pos hlength] at h
      cases h
      exact ⟨rfl, hlength, rfl⟩
    · rw [result, if_neg hlength] at h
      cases h

/-- The octets in the pieces before a read. -/
def received (ps : List Octets) (n : Nat) : Nat := (ps.take n).flatten.length

/-- Reads that are placed one behind the other, within a file of `size` octets, each for the rest of
it. -/
structure Orderly (size : Nat) (ps : List Octets) (t : Trace) : Prop where
  nonempty : ∀ p ∈ ps, p ≠ []
  bounded : t.length ≤ size
  placed : ∀ n c f, t[n]? = some (c, f) →
    received ps n < size ∧ c = .read (received ps n) (size - received ps n)

variable {S : Stack ω ε Context Connection Application} {k : Connection} {size start : Nat}
  {w w' : ω} {ps : List Octets} {e : LoopEnd}

/-- The loop ends, whatever the card answers. -/
theorem exists_loop (S : Stack ω ε Context Connection Application) (k : Connection)
    (size start : Nat) (w : ω) : ∃ ps e w', Loop S k size start w ps e w' := by
  -- Less is missing behind each piece.
  induction hmissing : size - start using Nat.strongRecOn generalizing start w with
  | ind missing ih =>
    by_cases h : start < size
    · rcases hR : S.read k start (size - start) w with ⟨v, w', ns⟩
      have hr : Answers (S.read k start (size - start)) w v w' := by simp [Answers, hR]
      cases v with
      | error f => exact ⟨_, _, _, .fault h hr⟩
      | ok p =>
        by_cases hp : p = []
        · subst hp
          exact ⟨_, _, _, .empty h hr⟩
        · have hpos : 0 < p.length := List.length_pos_iff.mpr hp
          obtain ⟨ps, e, w'', hl⟩ := ih (size - (start + p.length)) (by omega) (start + p.length) w'
            rfl
          exact ⟨_, _, _, .piece h hr hp hl⟩
    · exact ⟨_, _, _, .full (Nat.le_of_not_lt h)⟩

attribute [local simp] Task.run_bind Task.run_call Task.run_require Task.callThrough faultOf

/-- Fuel for the octets that are missing is enough. -/
theorem run_fragments (h : Loop S k size start w ps e w') {fuel : Nat}
    (hfuel : size ≤ start + fuel) :
    let r := (fragments S k size fuel start).run w
    r.value = e.content ps ∧ trace r.entries = reads size start ps e ∧ r.world = w' := by
  induction h generalizing fuel with
  | full h =>
    cases fuel with
    | zero => exact ⟨rfl, rfl, rfl⟩
    | succ fuel =>
      rw [fragments, if_pos h]
      exact ⟨rfl, rfl, rfl⟩
  | empty h hr | fault h hr =>
    obtain ⟨fuel, rfl⟩ := Nat.exists_eq_add_one.mpr (show 0 < fuel by omega)
    rw [fragments, if_neg (Nat.not_le.mpr h)]
    simp [hr.1, hr.2, LoopEnd.content, reads]
  | @piece start w w' w'' p ps e h hr hp hl ih =>
    obtain ⟨fuel, rfl⟩ := Nat.exists_eq_add_one.mpr (show 0 < fuel by omega)
    have hlength : 0 < p.length := List.length_pos_iff.mpr hp
    have hfuel' : size ≤ start + p.length + fuel := by omega
    obtain ⟨hvalue, htrace, hworld⟩ := ih hfuel'
    rw [fragments, if_neg (Nat.not_le.mpr h)]
    simp [hr.1, hr.2, hp, hvalue, htrace, hworld, LoopEnd.content_cons, reads]

/-! ## Order -/

theorem Loop.nonempty (h : Loop S k size start w ps e w') : ∀ p ∈ ps, p ≠ [] := by
  induction h with
  | full | empty | fault => nofun
  | piece _ _ hp _ ih =>
    rintro q (_ | ⟨_, hq⟩)
    · exact hp
    · exact ih q hq

/-- Every read but the last one brings an octet at least. -/
theorem Loop.length_reads_le (h : Loop S k size start w ps e w') :
    (reads size start ps e).length ≤ size - start := by
  induction h with
  | full h => exact Nat.zero_le _
  | empty h | fault h => exact Nat.sub_pos_of_lt h
  | piece h _ hp _ ih =>
    have hlength := List.length_pos_iff.mpr hp
    rw [reads, List.length_cons]
    omega

theorem received_succ (p : Octets) (ps : List Octets) (n : Nat) :
    received (p :: ps) (n + 1) = p.length + received ps n := by
  rw [received, List.take_succ_cons, List.flatten_cons, List.length_append, received]

theorem Loop.placed (h : Loop S k size start w ps e w') {n : Nat} {c : Call} {f : Option Fault}
    (hn : (reads size start ps e)[n]? = some (c, f)) :
    start + received ps n < size ∧
      c = .read (start + received ps n) (size - (start + received ps n)) := by
  induction h generalizing n with
  | full => cases hn
  | empty h | fault h =>
    cases n with
    | zero =>
      cases hn
      exact ⟨h, rfl⟩
    | succ n => cases hn
  | piece h _ _ _ ih =>
    cases n with
    | zero =>
      cases hn
      exact ⟨h, rfl⟩
    | succ n =>
      rw [received_succ, ← Nat.add_assoc]
      exact ih hn

theorem Loop.orderly (h : Loop S k size 0 w ps e w') : Orderly size ps (reads size 0 ps e) where
  nonempty := h.nonempty
  bounded := h.length_reads_le
  placed n c f hn := by simpa only [Nat.zero_add] using h.placed hn

/-- A piece without octets leaves the file incomplete. -/
theorem Loop.incomplete (h : Loop S k size start w ps .empty w') :
    start + ps.flatten.length < size := by
  generalize he : LoopEnd.empty = e at h
  induction h with
  | full | fault => cases he
  | empty h => exact h
  | piece _ _ _ _ ih =>
    rw [List.flatten_cons, List.length_append, ← Nat.add_assoc]
    exact ih he

/-! ## The whole file -/

variable {path : Path} {info : FileInfo} {w'' : ω}

/-- How reading a file ends, its trace and the world afterwards. -/
inductive FileReading (S : Stack ω ε Context Connection Application) (k : Connection) (path : Path)
    (w : ω) : Except Failure Octets → Trace → ω → Prop
  | unselected {f : Fault} {w' : ω} (hs : Answers (S.select k path) w (.error f) w') :
      FileReading S k path w (.error (.ofFault f)) [(.select path, some f)] w'
  | unsuitable {info : FileInfo} {w' : ω} (hs : Answers (S.select k path) w (.ok info) w')
      (hi : info.fileType ≠ .workingEf ∨ info.efStructure ≠ .transparent ∨ info.size = 0) :
      FileReading S k path w (.error .cardError) [(.select path, none)] w'
  | fragmented {info : FileInfo} {ps : List Octets} {e : LoopEnd} {w' w'' : ω}
      (hs : Answers (S.select k path) w (.ok info) w') (htype : info.fileType = .workingEf)
      (hstructure : info.efStructure = .transparent) (hsize : 0 < info.size)
      (hl : Loop S k info.size 0 w' ps e w'')
      (ho : Orderly info.size ps (reads info.size 0 ps e)) :
      FileReading S k path w (e.result info.size ps)
        ((.select path, none) :: reads info.size 0 ps e) w''

/-- Content of another length is no content. -/
def ofLength (size : Nat) (content : Octets) : Except Failure Octets :=
  if content.length = size then .ok content else .error .cardError

theorem LoopEnd.result_eq (hl : Loop S k size 0 w ps e w') :
    e.result size ps = (e.content ps).bind (ofLength size) := by
  cases e with
  | full | fault => rfl
  | empty =>
    have hlength : ps.flatten.length ≠ size := by
      have := hl.incomplete
      omega
    exact (if_neg hlength).symm

theorem run_read_of_suitable (hs : Answers (S.select k path) w (.ok info) w')
    (hi : info.isTransparentWorking = true) (hsize : 0 < info.size) :
    let r := (read S k path).run w
    let l := (fragments S k info.size info.size 0).run w'
    r.value = l.value.bind (ofLength info.size) ∧
      trace r.entries = (.select path, none) :: trace l.entries ∧ r.world = l.world := by
  have hne : info.size ≠ 0 := Nat.ne_of_gt hsize
  simp only [read, Task.run_bind, Task.callThrough, Task.run_call, Task.run_require, hs.1, hs.2,
    hi, hne, ne_eq, not_false_eq_true, decide_true, Bool.and_self, if_true]
  cases hl : ((fragments S k info.size info.size 0).run w').value with
  | error f => simp [Except.bind]
  | ok content =>
    by_cases hlength : content.length = info.size <;> simp [hlength, Except.bind, ofLength]

theorem run_read (hs : Answers (S.select k path) w (.ok info) w')
    (hi : info.isTransparentWorking = true) (hsize : 0 < info.size)
    (hl : Loop S k info.size 0 w' ps e w'') :
    let r := (read S k path).run w
    r.value = e.result info.size ps ∧
      trace r.entries = (.select path, none) :: reads info.size 0 ps e ∧ r.world = w'' := by
  obtain ⟨hvalue, htrace, hworld⟩ := run_fragments hl (Nat.le_add_left info.size 0)
  obtain ⟨hvalue', htrace', hworld'⟩ := run_read_of_suitable hs hi hsize
  rw [LoopEnd.result_eq hl, ← hvalue, ← htrace, ← hworld]
  exact ⟨hvalue', htrace', hworld'⟩

theorem fileReading_read (S : Stack ω ε Context Connection Application) (k : Connection)
    (path : Path) (w : ω) :
    FileReading S k path w ((read S k path).run w).value (trace ((read S k path).run w).entries)
      ((read S k path).run w).world := by
  rcases hS : S.select k path w with ⟨v, w', ns⟩
  have hs : Answers (S.select k path) w v w' := by simp [Answers, hS]
  cases v with
  | error f => simpa [read, hS] using FileReading.unselected hs
  | ok info =>
    by_cases hi : info.isTransparentWorking = false ∨ info.size = 0
    · have hunsuitable := FileReading.unsuitable hs (FileInfo.unsuitable_iff.mp hi)
      rcases hi with hkind | hsize
      · simpa [read, hS, hkind] using hunsuitable
      · simpa [read, hS, hsize] using hunsuitable
    · obtain ⟨hkind, hsize⟩ := not_or.mp hi
      rw [Bool.not_eq_false] at hkind
      obtain ⟨htype, hstructure⟩ := FileInfo.isTransparentWorking_iff.mp hkind
      obtain ⟨ps, e, w'', hl⟩ := exists_loop S k info.size 0 w'
      obtain ⟨hvalue, htrace, hworld⟩ := run_read hs hkind (Nat.pos_of_ne_zero hsize) hl
      rw [hvalue, htrace, hworld]
      exact .fragmented hs htype hstructure (Nat.pos_of_ne_zero hsize) hl hl.orderly

/-! ## Buffers -/

/-- The file that is selected is not to be read, or not too large for a buffer. -/
def Fits (S : Stack ω ε Context Connection Application) (k : Connection) (path : Path) (w : ω) :
    Prop :=
  ∀ info w', Answers (S.select k path) w (.ok info) w' → info.fileType = .workingEf →
    info.efStructure = .transparent → info.size ≤ capacity

/-- How reading a file into a buffer for all of it ends, its trace and the world afterwards. -/
inductive BufferedReading (S : Stack ω ε Context Connection Application) (k : Connection)
    (path : Path) (w : ω) : Option (Except Failure Octets) → Trace → ω → Prop
  | brokenOff {info : FileInfo} {w' : ω} (hs : Answers (S.select k path) w (.ok info) w')
      (htype : info.fileType = .workingEf) (hstructure : info.efStructure = .transparent)
      (hsize : capacity < info.size) :
      BufferedReading S k path w none [(.select path, none)] w'
  | answered {v : Except Failure Octets} {t : Trace} {w' : ω} (hfits : Fits S k path w)
      (h : FileReading S k path w v t w') : BufferedReading S k path w (some v) t w'

theorem exists_of_not_fits (h : ¬ Fits S k path w) :
    ∃ info w', Answers (S.select k path) w (.ok info) w' ∧ info.fileType = .workingEf ∧
      info.efStructure = .transparent ∧ capacity < info.size := by
  simpa [Fits] using h

theorem readBuffered_of_fits (h : Fits S k path w) :
    readBuffered S k path w =
      let r := (read S k path).run w
      ⟨some r.value, r.world, r.entries⟩ := by
  rcases hS : S.select k path w with ⟨v, w', ns⟩
  cases v with
  | error f => simp [readBuffered, read, hS]
  | ok info =>
    by_cases hi : info.isTransparentWorking = false ∨ info.size = 0
    · have hrefused := FileInfo.unsuitable_iff.mp hi
      rcases hi with hkind | hsize
      · simp [readBuffered, read, hS, hkind, if_pos hrefused]
      · simp [readBuffered, read, hS, hsize]
    · obtain ⟨hkind, hsize⟩ := not_or.mp hi
      rw [Bool.not_eq_false] at hkind
      obtain ⟨htype, hstructure⟩ := FileInfo.isTransparentWorking_iff.mp hkind
      have hfits : ¬ capacity < info.size :=
        Nat.not_lt.mpr (h info w' (by simp [Answers, hS]) htype hstructure)
      rcases hF : (fragments S k info.size info.size 0).run w' with ⟨v, w'', es⟩
      cases v with
      | error f => simp [readBuffered, read, hS, hkind, htype, hstructure, hsize, hfits, hF]
      | ok content =>
        by_cases hlength : content.length = info.size <;>
          simp [readBuffered, read, hS, hkind, htype, hstructure, hsize, hfits, hF, hlength,
            Except.map]

theorem readBuffered_of_brokenOff (hs : Answers (S.select k path) w (.ok info) w')
    (htype : info.fileType = .workingEf) (hstructure : info.efStructure = .transparent)
    (hsize : capacity < info.size) :
    let r := readBuffered S k path w
    r.value = none ∧ trace r.entries = [(.select path, none)] ∧ r.world = w' := by
  have hne : info.size ≠ 0 := Nat.ne_of_gt (Nat.zero_lt_of_lt hsize)
  simp [readBuffered, hs.1, hs.2, htype, hstructure, hsize, hne]

/-! ## Pieces of a content -/

/-- Wherever the invariant holds, a read for the rest of the content brings octets of it from the
start, and the invariant holds behind them. -/
def Serves (S : Stack ω ε Context Connection Application) (k : Connection) (content : Octets)
    (I : Nat → ω → Prop) : Prop :=
  ∀ start w, I start w → start < content.length →
    ∃ p w', Answers (S.read k start (content.length - start)) w (.ok p) w' ∧ p ≠ [] ∧
      p <+: content.drop start ∧ I (start + p.length) w'

theorem Serves.exists_loop {content : Octets} {I : Nat → ω → Prop} (h : Serves S k content I)
    (hI : I start w) (hstart : start ≤ content.length) :
    ∃ ps w', Loop S k content.length start w ps .full w' ∧ ps.flatten = content.drop start := by
  induction hmissing : content.length - start using Nat.strongRecOn generalizing start w with
  | ind missing ih =>
    by_cases hlt : start < content.length
    · obtain ⟨p, w', hr, hp, hprefix, hI'⟩ := h start w hI hlt
      have hpos : 0 < p.length := List.length_pos_iff.mpr hp
      have hlength : p.length ≤ content.length - start := by
        simpa only [List.length_drop] using hprefix.length_le
      obtain ⟨ps, w'', hl, hflat⟩ := ih (content.length - (start + p.length)) (by omega) hI'
        (by omega) rfl
      refine ⟨p :: ps, w'', .piece hlt hr hp hl, ?_⟩
      rw [List.flatten_cons, hflat, ← List.drop_drop]
      obtain ⟨rest, hrest⟩ := hprefix
      rw [← hrest, List.drop_left]
    · refine ⟨[], w, .full (Nat.le_of_not_lt hlt), ?_⟩
      rw [List.drop_of_length_le (Nat.le_of_not_lt hlt)]
      rfl

theorem value_read_eq_ok_iff {content : Octets} :
    ((read S k path).run w).value = .ok content ↔
      ∃ info ps w' w'', Answers (S.select k path) w (.ok info) w' ∧
        info.fileType = .workingEf ∧ info.efStructure = .transparent ∧ 0 < info.size ∧
        Loop S k info.size 0 w' ps .full w'' ∧ ps.flatten.length = info.size ∧
        content = ps.flatten := by
  constructor
  · -- Only a loop that fills the file has a content for its result.
    intro h
    have hreading := fileReading_read S k path w
    rw [h] at hreading
    generalize hv : (.ok content : Except Failure Octets) = v at hreading
    generalize trace ((read S k path).run w).entries = t at hreading
    generalize ((read S k path).run w).world = w₀ at hreading
    cases hreading with
    | unselected | unsuitable => cases hv
    | fragmented hs htype hstructure hsize hl ho =>
      obtain ⟨rfl, hlength, hcontent⟩ := LoopEnd.full_of_result hv.symm
      exact ⟨_, _, _, _, hs, htype, hstructure, hsize, hl, hlength, hcontent⟩
  · rintro ⟨info, ps, w', w'', hs, htype, hstructure, hsize, hl, hlength, rfl⟩
    have hkind := FileInfo.isTransparentWorking_iff.mpr ⟨htype, hstructure⟩
    exact (run_read hs hkind hsize hl).1.trans (if_pos hlength)

/-- A card that serves a content from where the last piece ended is read to the end of it. -/
theorem Serves.value_read {content : Octets} {I : Nat → ω → Prop} (h : Serves S k content I)
    (hs : Answers (S.select k path) w (.ok info) w') (htype : info.fileType = .workingEf)
    (hstructure : info.efStructure = .transparent) (hsize : info.size = content.length)
    (hne : content ≠ []) (hI : I 0 w') : ((read S k path).run w).value = .ok content := by
  obtain ⟨ps, w'', hl, hflat⟩ := h.exists_loop hI (Nat.zero_le _)
  rw [List.drop_zero] at hflat
  have hpos : 0 < content.length := List.length_pos_iff.mpr hne
  rw [← hsize] at hl hpos
  exact value_read_eq_ok_iff.mpr
    ⟨info, ps, w', w'', hs, htype, hstructure, hpos, hl, by rw [hflat, hsize], hflat.symm⟩

/-! ## The main result -/

/-- Whatever the card answers: a file is selected, and if it is one to be read it is read by an
orderly loop. The result is its pieces put together if no read failed, no piece was empty and they
fill the file exactly; otherwise it is an error. This is the only way to a content, and a card that
serves each piece from where the last ended always leads there. There is no result just where the
file is too large for a buffer, and no read is made then. -/
theorem read_all_or_nothing (S : Stack ω ε Context Connection Application) (k : Connection)
    (path : Path) (w : ω) :
    let r := readBuffered S k path w
    BufferedReading S k path w r.value (trace r.entries) r.world ∧
    (∀ content, r.value = some (.ok content) ↔
      ∃ info ps w' w'', Answers (S.select k path) w (.ok info) w' ∧
        info.fileType = .workingEf ∧ info.efStructure = .transparent ∧
        0 < info.size ∧ info.size ≤ capacity ∧
        Loop S k info.size 0 w' ps .full w'' ∧ ps.flatten.length = info.size ∧
        content = ps.flatten) ∧
    (∀ info content w' I, Answers (S.select k path) w (.ok info) w' →
      info.fileType = .workingEf → info.efStructure = .transparent →
      info.size = content.length → content ≠ [] → content.length ≤ capacity →
      Serves S k content I → I 0 w' → r.value = some (.ok content)) ∧
    (r.value = none ↔ ∃ info w', Answers (S.select k path) w (.ok info) w' ∧
      info.fileType = .workingEf ∧ info.efStructure = .transparent ∧ capacity < info.size) := by
  intro r
  by_cases hfits : Fits S k path w
  · have hr : r = _ := readBuffered_of_fits hfits
    rw [hr]
    refine ⟨.answered hfits (fileReading_read S k path w), fun content => ?_, ?_, nofun, ?_⟩
    · simp only [Option.some.injEq, value_read_eq_ok_iff]
      constructor
      · rintro ⟨info, ps, w', w'', hs, htype, hstructure, hsize, hrest⟩
        exact ⟨info, ps, w', w'', hs, htype, hstructure, hsize, hfits _ _ hs htype hstructure,
          hrest⟩
      · rintro ⟨info, ps, w', w'', hs, htype, hstructure, hsize, -, hrest⟩
        exact ⟨info, ps, w', w'', hs, htype, hstructure, hsize, hrest⟩
    · intro info content w' I hs htype hstructure hsize hne _ hserves hI
      exact congrArg some (hserves.value_read hs htype hstructure hsize hne hI)
    · rintro ⟨info, w', hs, htype, hstructure, hlarge⟩
      exact absurd (hfits _ _ hs htype hstructure) (Nat.not_le.mpr hlarge)
  · obtain ⟨info, w', hs, htype, hstructure, hlarge⟩ := exists_of_not_fits hfits
    obtain ⟨hvalue, htrace, hworld⟩ := readBuffered_of_brokenOff hs htype hstructure hlarge
    -- The answer to the selection is this one, so nothing that fits was selected.
    have hnot {info' : FileInfo} {w'' : ω} (hs' : Answers (S.select k path) w (.ok info') w'') :
        ¬ info'.size ≤ capacity := by
      obtain ⟨⟨⟩, -⟩ := hs.unique hs'
      exact Nat.not_le.mpr hlarge
    refine ⟨?_, fun content => ?_, ?_, ?_⟩
    · rw [hvalue, htrace, hworld]
      exact .brokenOff hs htype hstructure hlarge
    · rw [hvalue]
      refine ⟨nofun, ?_⟩
      rintro ⟨info', ps, w'', w₃, hs', -, -, -, hfit, -⟩
      exact absurd hfit (hnot hs')
    · intro info' content w'' I hs' _ _ hsize _ hfit
      exact absurd (hsize ▸ hfit) (hnot hs')
    · exact ⟨fun _ => ⟨info, w', hs, htype, hstructure, hlarge⟩, fun _ => hvalue⟩

end WholeFile

end

namespace Simulator

/-- A card with a file of three octets that serves no more than two of them at once. -/
def slow : Card :=
  ⟨true, [("3F00DF01C000", ⟨[1, 2, 3], ⟨.workingEf, .transparent, 3⟩, none, none, 0, 2, 0⟩)],
    none, []⟩

/-- The file is read in two pieces. -/
theorem read_all_or_nothing_slow :
    let w := World.ofCards [some slow] none
    let r := WholeFile.readBuffered stack ⟨0, 0⟩ Dinsig.certPath w
    r.value = some (.ok [1, 2, 3]) ∧ trace r.entries =
      [(.select Dinsig.certPath, none), (.read 0 3, none), (.read 2 1, none)] := by
  intro w r
  obtain ⟨-, -, hserved, -⟩ := WholeFile.read_all_or_nothing stack ⟨0, 0⟩ Dinsig.certPath w
  let w₁ := (stack.select ⟨0, 0⟩ Dinsig.certPath w).world
  let w₂ := (stack.read ⟨0, 0⟩ 0 3 w₁).world
  let I (start : Nat) (w : World) : Prop := start = 0 ∧ w = w₁ ∨ start = 2 ∧ w = w₂ ∨ start = 3
  have hserves : WholeFile.Serves stack ⟨0, 0⟩ [1, 2, 3] I := by
    rintro start w' (⟨rfl, rfl⟩ | ⟨rfl, rfl⟩ | rfl) hstart
    · exact ⟨[1, 2], w₂, ⟨rfl, rfl⟩, by decide, by decide, .inr (.inl ⟨rfl, rfl⟩)⟩
    · exact ⟨[3], _, ⟨rfl, rfl⟩, by decide, by decide, .inr (.inr rfl)⟩
    · cases Nat.lt_irrefl _ hstart
  have hvalue : r.value = some (.ok [1, 2, 3]) :=
    hserved ⟨.workingEf, .transparent, 3⟩ [1, 2, 3] w₁ I ⟨rfl, rfl⟩ rfl rfl rfl (by decide)
      (by decide) hserves (.inl ⟨rfl, rfl⟩)
  exact ⟨hvalue, by decide +kernel⟩

/-- The least size for which there is no buffer. -/
def unbufferedSize : Nat := 0x8000000000000000

/-- A card that reports this size for its file of three octets. -/
def overstated : Card :=
  ⟨true, [("3F00DF01C000",
    ⟨[1, 2, 3], ⟨.workingEf, .transparent, unbufferedSize⟩, none, none, 0, 256, 0⟩)], none, []⟩

/-- The loop over pieces of such a file ends with an empty piece, which would be a card error, but
it is never begun. -/
theorem overstated_unanswered :
    let w := World.ofCards [some overstated] none
    let w' := (stack.select ⟨0, 0⟩ Dinsig.certPath w).world
    Answers (stack.select ⟨0, 0⟩ Dinsig.certPath) w
      (.ok ⟨.workingEf, .transparent, unbufferedSize⟩) w' ∧
    (∃ w'', WholeFile.Loop stack ⟨0, 0⟩ unbufferedSize 0 w' [[1, 2, 3]] .empty w'') ∧
    (WholeFile.readBuffered stack ⟨0, 0⟩ Dinsig.certPath w).value = none := by
  intro w w'
  have hs : Answers (stack.select ⟨0, 0⟩ Dinsig.certPath) w
      (.ok ⟨.workingEf, .transparent, unbufferedSize⟩) w' := ⟨rfl, rfl⟩
  have hlarge : WholeFile.capacity < unbufferedSize := by decide
  refine ⟨hs, ⟨_, .piece (by decide) ⟨rfl, rfl⟩ (by decide) (.empty (by decide) ⟨rfl, rfl⟩)⟩, ?_⟩
  exact (WholeFile.readBuffered_of_brokenOff hs rfl rfl hlarge).1

end Simulator

end SmartCard
