import SmartCard.Dinsig
import SmartCard.Proofs.CardDialogue
import SmartCard.WholeFile

/-!
# A file arrives whole

A file is read by a loop over reads, each of which is a loop over commands, each of which gathers a
response in parts. The card chooses where each piece and each part ends; the pieces are put together
in order and the reading goes on where the last piece ended, until the file is complete. No position
is out of range as long as the file has no more than `8000` octets.
-/
namespace SmartCard.Pcsc

open CardFile

variable {α β : Type} {f : CardFile} {s : Memory} {m : Manager} {k : Connection} {context : Nat}

/-- The largest file that can be read to its end. -/
def maxSize : Nat := Command.maxPosition + 1

/-- What follows a piece continues it. -/
theorem append_isPrefix {piece next o : Octets} (h : piece <+: o)
    (hn : next <+: o.drop piece.length) : piece ++ next <+: o := by
  obtain ⟨rest, rfl⟩ := h
  rw [List.drop_left] at hn
  exact (List.prefix_append_right_inj piece).mpr hn

/-! ## One read -/

namespace Connection

theorem select_leads (hk : k.card = some context) {info : FileInfo}
    (hp : ControlParameters.ofResponse? f.parameters = some info) :
    (k.select f.path).Leads f s m fun v s' => v = .ok info ∧ s'.selected = true := by
  refine .bind (handle_leads hk ⟨f.parameters, true, .parameters⟩) ?_
  rintro s' ⟨data, selected, ho, hv, rfl⟩
  obtain ⟨rfl, rfl⟩ := ho.of_select
  rw [hv]
  simp only [hp]
  exact .pure ⟨rfl, rfl⟩

/-- There is something to read at each position of the file. -/
theorem exists_piece (hs : s.selected = true) {position le : Nat}
    (hp : position < f.content.length) (hsize : f.content.length ≤ maxSize) (hle : 0 < le)
    (hle' : le ≤ Command.maxRead) :
    ∃ data selected, Offers f s (Command.readBinary position (UInt8.ofNat le)).octets data
      selected := by
  have hn : (UInt8.ofNat le).toNat = le := by
    rw [UInt8.toNat_ofNat']
    simp only [Command.maxRead] at hle'
    omega
  refine ⟨_, true, .piece hs ?_ ?_ (List.prefix_refl _)⟩
  · simp only [maxSize] at hsize
    omega
  · rw [hn, ← List.length_pos_iff, List.length_take, List.length_drop]
    omega

/-- One read brings a piece of the file from the position on, and never an empty one. -/
theorem readFrom_leads (hk : k.card = some context) (hsize : f.content.length ≤ maxSize)
    {commands position missing : Nat} (hs : s.selected = true) (hc : missing ≤ commands)
    (he : position + missing ≤ f.content.length) :
    (k.readFrom commands position missing).Leads f s m fun v s' => s'.selected = true ∧
      ∃ piece, v = .ok piece ∧ piece <+: f.content.drop position ∧ piece.length ≤ missing ∧
        (0 < missing → piece ≠ []) := by
  induction commands generalizing s m position missing with
  | zero =>
    obtain rfl : missing = 0 := Nat.le_zero.mp hc
    exact .pure ⟨hs, [], rfl, List.nil_prefix, Nat.le_refl 0, nofun⟩
  | succ commands ih =>
    by_cases hm : missing = 0
    · subst hm
      rw [readFrom, if_pos rfl]
      exact .pure ⟨hs, [], rfl, List.nil_prefix, Nat.le_refl 0, nofun⟩
    · have hrange : position ≤ Command.maxPosition := by
        simp only [maxSize] at hsize
        omega
      rw [readFrom, if_neg hm, if_neg (Nat.not_lt.mpr hrange)]
      have hle : 0 < min missing Command.maxRead := by
        simp only [Command.maxRead]
        omega
      have hle' : min missing Command.maxRead ≤ Command.maxRead := Nat.min_le_right _ _
      have hmissing : min missing Command.maxRead ≤ missing := Nat.min_le_left _ _
      generalize min missing Command.maxRead = le at hle hle' hmissing
      have hn : (UInt8.ofNat le).toNat = le := by
        rw [UInt8.toNat_ofNat']
        simp only [Command.maxRead] at hle'
        omega
      refine .bind (handle_leads hk (exists_piece hs (by omega) hsize hle hle')) ?_
      rintro s' ⟨piece, selected, ho, hv, rfl⟩
      obtain ⟨hpiece, htake, rfl⟩ := ho.of_readBinary hrange
      rw [hn] at htake
      rw [hv]
      have hlength : piece.length ≤ le := Nat.le_trans htake.length_le (List.length_take_le _ _)
      have hprefix : piece <+: f.content.drop position := htake.trans (List.take_prefix _ _)
      -- A short piece ends the read; behind a full one it goes on where the piece ends.
      by_cases hshort : piece.length < le
      · simp only [hshort, if_true]
        exact .pure ⟨rfl, piece, rfl, hprefix, by omega, fun _ => hpiece⟩
      · simp only [hshort, if_false]
        refine .bind (ih rfl (by omega) (by omega)) ?_
        rintro s'' ⟨hs'', next, hv', hnext, hnlength, -⟩
        rw [hv']
        rw [← List.drop_drop] at hnext
        refine .pure ⟨hs'', piece ++ next, rfl, append_isPrefix hprefix hnext, ?_, ?_⟩
        · rw [List.length_append]
          omega
        · exact fun _ => List.append_ne_nil_of_left_ne_nil hpiece next

end Connection

/-! ## The loop over reads -/

/-- If the manager answers as the card does, the piece of work succeeds with a value and a memory of
the card that `Q` relates. -/
def Task.Leads (f : CardFile) (s : Memory) (m : Manager) (t : Task Manager Event α)
    (Q : α → Memory → Prop) : Prop :=
  ∀ s' m', Dialogue f s m (commands (t.run m).entries) s' m' →
    (t.run m).world = m' ∧ ∃ a, (t.run m).value = .ok a ∧ Q a s'

namespace Task.Leads

variable {P : α → Memory → Prop} {Q : β → Memory → Prop}

theorem pure {a : α} (h : P a s) : Task.Leads f s m (pure a) P := by
  intro s' m' hd
  cases hd
  exact ⟨rfl, a, rfl, h⟩

theorem require {condition : Bool} (hc : condition = true) {t : Task Manager Event Unit}
    {P : Unit → Memory → Prop} (h : P () s) : Task.Leads f s m (Task.require condition t) P := by
  rw [Task.require, if_pos hc]
  exact .pure h

theorem bind {t : Task Manager Event α} {g : α → Task Manager Event β}
    (ht : Task.Leads f s m t P)
    (hg : ∀ a s' m', P a s' → Task.Leads f s' m' (g a) Q) : Task.Leads f s m (t >>= g) Q := by
  intro s'' m'' hd
  rw [Task.run_bind] at hd ⊢
  cases hv : (t.run m).value with
  | ok a =>
    rw [hv] at hd
    simp only [commands_append] at hd
    obtain ⟨s', m', hfront, hback⟩ := hd.split
    obtain ⟨rfl, a', ha', hp⟩ := ht s' m' hfront
    rw [hv] at ha'
    cases ha'
    exact hg a s' _ hp s'' m'' hback
  | error e =>
    rw [hv] at hd
    obtain ⟨-, a, ha, -⟩ := ht s'' m'' hd
    rw [hv] at ha
    cases ha

/-- A call of the driver that succeeds is what the work of the driver is. -/
theorem callThrough {w : Work (Except Error α)}
    (hw : w.Leads f s m fun v s' => ∃ a, v = .ok a ∧ P a s') (c : Call) :
    Task.Leads f s m (Task.callThrough c w.reply) P := by
  intro s' m' hd
  have hvalue : (w.reply m).value = (w m).value.mapError Error.fault := rfl
  have hworld : (w.reply m).world = (w m).world := rfl
  have hentries : (w.reply m).entries = (w m).entries := List.append_nil _
  rw [Task.callThrough, Task.run_call] at hd ⊢
  rw [hvalue, hworld, hentries] at hd ⊢
  cases hv : (w m).value with
  | ok a =>
    rw [hv] at hd
    obtain ⟨hm, a', ha', hp⟩ := hw s' m' hd
    rw [hv] at ha'
    cases ha'
    exact ⟨hm, a, rfl, hp⟩
  | error e =>
    rw [hv] at hd
    simp only [Except.mapError, List.cons_append, commands_call, commands_append] at hd
    obtain ⟨s₁, m₁, hfront, -⟩ := hd.split
    obtain ⟨-, a, ha, -⟩ := hw s₁ m₁ hfront
    rw [hv] at ha
    cases ha

end Task.Leads

/-- The pieces that the reads bring make up the file from where they start. -/
theorem fragments_leads (hk : k.card = some context) (hsize : f.content.length ≤ maxSize)
    {reads start : Nat} (hs : s.selected = true) (hr : f.content.length ≤ start + reads)
    (hle : start ≤ f.content.length) :
    Task.Leads f s m (WholeFile.fragments stack k f.content.length reads start) fun o _ =>
      o = f.content.drop start := by
  induction reads generalizing s m start with
  | zero =>
    obtain rfl : start = f.content.length := Nat.le_antisymm hle hr
    exact .pure List.drop_length.symm
  | succ reads ih =>
    by_cases hend : f.content.length ≤ start
    · obtain rfl : start = f.content.length := Nat.le_antisymm hle hend
      rw [WholeFile.fragments, if_pos (Nat.le_refl _)]
      exact .pure List.drop_length.symm
    · rw [WholeFile.fragments, if_neg hend]
      have hread : (k.read start (f.content.length - start)).Leads f s m fun v s' =>
          ∃ piece, v = .ok piece ∧ s'.selected = true ∧ piece <+: f.content.drop start ∧
            piece ≠ [] := by
        refine (Connection.readFrom_leads hk hsize hs (Nat.le_refl _) (by omega)).mono ?_
        rintro v s' ⟨hs', piece, hv, hprefix, -, hne⟩
        exact ⟨piece, hv, hs', hprefix, hne (by omega)⟩
      refine .bind (.callThrough hread _) ?_
      rintro piece s' m' ⟨hs', hprefix, hne⟩
      have hlength : piece.length ≤ f.content.length - start := by
        rw [← List.length_drop]
        exact hprefix.length_le
      -- No piece is empty, so the reads suffice: each of them brings the end nearer.
      have hpos : 0 < piece.length := List.length_pos_iff.mpr hne
      rw [if_neg (by simpa using hne)]
      refine .bind (ih hs' (by omega) (by omega)) ?_
      rintro next s'' m'' rfl
      refine .pure ?_
      obtain ⟨rest, hrest⟩ := hprefix
      rw [← List.drop_drop, ← hrest, List.drop_left]

/-- Whatever pieces the card chooses, and however it splits its responses, the file that is read is
the file on the card. -/
theorem read_eq_content {f : CardFile} {s s' : Memory} {m m' : Manager} {k : Connection}
    {context : Nat} (hk : k.card = some context) (hne : 1 ≤ f.content.length)
    (hsize : f.content.length ≤ 0x8000)
    (hp : ControlParameters.ofResponse? f.parameters =
      some ⟨.workingEf, .transparent, f.content.length⟩)
    (hd : Dialogue f s m (commands ((WholeFile.read stack k f.path).run m).entries) s' m') :
    ((WholeFile.read stack k f.path).run m).value = .ok f.content := by
  have hlead : Task.Leads f s m (WholeFile.read stack k f.path) fun o _ => o = f.content := by
    have hselect := (Connection.select_leads (s := s) (m := m) hk hp).mono fun v s' h =>
      (⟨_, h.1, rfl, h.2⟩ : ∃ info, v = .ok info ∧ info = _ ∧ s'.selected = true)
    refine .bind (.callThrough hselect _) ?_
    rintro info s' m' ⟨rfl, hs'⟩
    have hsound : decide (f.content.length ≠ 0) = true := decide_eq_true (by omega)
    refine .bind (.require (P := fun _ s' => s'.selected = true) hsound hs') ?_
    rintro - s' m' hs'
    refine .bind (fragments_leads hk hsize hs' (by simp) (Nat.zero_le _)) ?_
    rintro o s' m' rfl
    refine .bind (.require (P := fun _ _ => True) (by simp) trivial) ?_
    rintro - s' m' -
    exact .pure List.drop_zero
  obtain ⟨-, o, ho, rfl⟩ := hlead s' m' hd
  exact ho

/-- The parameters come in two parts, and the three octets of the file by two reads, of which the
second is answered in three parts. -/
def piecemeal : Manager :=
  ({ Script.quiet with responses :=
    [.ok [0x62, 0x07, 0x80, 0x61, 0x06], .ok [0x02, 0x00, 0x03, 0x82, 0x01, 0x01, 0x90, 0x00],
      .ok [0xAA, 0x91, 0x00],
      .ok [0x61, 0x02], .ok [0xBB, 0x61, 0x01], .ok [0xCC, 0x90, 0x00]] } : Script).start

/-- A certificate file of three octets. -/
def shortFile : CardFile :=
  ⟨Dinsig.certPath, [0xAA, 0xBB, 0xCC], [0x62, 0x07, 0x80, 0x02, 0x00, 0x03, 0x82, 0x01, 0x01]⟩

theorem commands_piecemeal :
    commands ((WholeFile.read stack ⟨some 0, false⟩ shortFile.path).run piecemeal).entries =
      [(Command.select shortFile.path).octets, (Command.getResponse 6).octets,
        (Command.readBinary 0 3).octets, (Command.readBinary 1 2).octets,
        (Command.getResponse 2).octets, (Command.getResponse 1).octets] := by
  decide +kernel

theorem dialogue_piecemeal :
    Dialogue shortFile ⟨false, none⟩ piecemeal
      [(Command.select shortFile.path).octets, (Command.getResponse 6).octets,
        (Command.readBinary 0 3).octets, (Command.readBinary 1 2).octets,
        (Command.getResponse 2).octets, (Command.getResponse 1).octets]
      ⟨true, none⟩ Script.quiet.start :=
  .exchange (.offered .parameters (.part [0x62, 0x07, 0x80] _ 6)) <|
  .exchange (.offered (.left rfl) (.whole _ (.inl rfl))) <|
  .exchange (.offered (.piece rfl (by decide) (by decide) ⟨[0xBB, 0xCC], rfl⟩)
    (.whole [0xAA] (.inr rfl))) <|
  .exchange (.offered (.piece rfl (by decide) (by decide) ⟨[], rfl⟩)
    (.part [] [0xBB, 0xCC] 2)) <|
  .exchange (.offered (.left rfl) (.part [0xBB] [0xCC] 1)) <|
  .exchange (.offered (.left rfl) (.whole _ (.inl rfl))) <|
  .done _ _

theorem read_eq_content_piecemeal :
    ((WholeFile.read stack ⟨some 0, false⟩ shortFile.path).run piecemeal).value =
      .ok [0xAA, 0xBB, 0xCC] := by
  have hd := dialogue_piecemeal
  rw [← commands_piecemeal] at hd
  exact read_eq_content rfl (by decide) (by decide) (by decide +kernel) hd

end SmartCard.Pcsc
