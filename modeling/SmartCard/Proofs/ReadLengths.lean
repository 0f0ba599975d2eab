import SmartCard.Proofs.ReadPositions
import SmartCard.Proofs.ResponseChaining

/-!
# Lengths of reads

A read asks each time for no more octets than are missing, but nobody counts what the card sends in
return. So a read may bring more octets than it was asked for, as many as the card likes. Only its
last command can be at fault: as long as octets are missing, what was received is short of the
length, and a card that keeps to what it is asked for never exceeds it.
-/
namespace SmartCard.Pcsc

variable {k : Connection} {offset length n : Nat} {m m' : Manager} {c : Chunk}
  {cs front : List Chunk} {v : Except Error Octets} {o : Octets}

/-! ## The last command -/

/-- A read that succeeds brings what its commands brought. -/
theorem Transfer.value_eq (h : Transfer k offset length n m cs v m') (hv : v = .ok o) :
    o = cs.flatMap Chunk.data := by
  induction h generalizing o with
  | done =>
    cases hv
    rfl
  | beyond | failed => cases hv
  | short _ ha =>
    cases hv
    rw [List.flatMap_singleton, Chunk.data_of_ok ha]
  | on _ ha _ _ ih =>
    obtain ⟨rest, hrest, rfl⟩ := eq_ok_of_map hv
    rw [List.flatMap_cons, Chunk.data_of_ok ha, ih hrest]

/-- Octets are missing before the last command, and it asks for no more than these. -/
theorem Transfer.before_last (h : Transfer k offset length 0 m (front ++ [c]) v m') :
    (front.flatMap Chunk.data).length < length ∧
      c.le ≤ length - (front.flatMap Chunk.data).length := by
  have hp := h.placed (show (front ++ [c])[front.length]? = some c by simp)
  have hreceived : received 0 (front ++ [c]) front.length = (front.flatMap Chunk.data).length := by
    rw [received, List.take_left, Nat.zero_add]
  rw [hreceived] at hp
  exact ⟨hp.missing, hp.le ▸ Nat.min_le_left _ _⟩

/-- A read is too long exactly if its last command brings more than is missing. -/
theorem Transfer.exceeds_iff (h : Transfer k offset length 0 m cs v m') :
    length < (cs.flatMap Chunk.data).length ↔ ∃ front c, cs = front ++ [c] ∧
      (front.flatMap Chunk.data).length < length ∧ c.le < c.data.length ∧
      length - (front.flatMap Chunk.data).length < c.data.length := by
  constructor
  · intro hlong
    rcases List.eq_nil_or_concat cs with rfl | ⟨front, c, rfl⟩
    · exact absurd hlong (Nat.not_lt_zero _)
    · rw [List.concat_eq_append] at h hlong
      obtain ⟨hmissing, hle⟩ := h.before_last
      rw [List.flatMap_append, List.flatMap_singleton, List.length_append] at hlong
      exact ⟨front, c, List.concat_eq_append .., hmissing, by omega, by omega⟩
  · rintro ⟨front, c, rfl, hmissing, -, hlong⟩
    rw [List.flatMap_append, List.flatMap_singleton, List.length_append]
    omega

/-! ## Cards that send what they like -/

/-- Responses that bring each octet in a part of its own, and the last of which accepts. -/
def oneByOne (o : Octets) : List (Except ReturnCode Octets) :=
  o.map (fun b => .ok (Part.mk [b] 0x01).response) ++ [.ok [0x90, 0x00]]

/-- A manager with these responses. -/
def generous (o : Octets) : Manager := { Script.quiet with responses := oneByOne o }.start

theorem parted_generous (o : Octets) :
    Parted (generous o) (o.map fun b => ⟨[b], 0x01⟩) (.ok [0x90, 0x00]) (.ok []) := by
  induction o with
  | nil =>
    have h : Settles (generous []).respond.1 (.ok []) := .accepted [] (.inl rfl)
    exact .nil h
  | cons b o ih => exact .cons rfl ih

theorem handle_generous {context : Nat} (hk : k.card = some context) (c : Command) (o : Octets) :
    (k.handle c (generous o)).value = .ok o := by
  rw [Connection.handle_eq_gather]
  have hvalue := (Connection.run_gather hk (parted_generous o) (Nat.le_refl _) c.octets).1
  rw [hvalue]
  simp [Except.map, List.flatMap_map]

/-- One command is enough for any octets at least as many as were asked for. -/
theorem read_generous {context : Nat} (hk : k.card = some context) (hp : offset ≤ 0x7FFF)
    (hlength : 0 < length) (ho : length ≤ o.length) :
    (k.read offset length (generous o)).value = .ok o := by
  obtain ⟨c, m', hc⟩ := exists_round (k := k) hlength hp (generous o)
  have ha : c.answer = .ok o := hc.value.symm.trans (handle_generous hk c.command o)
  have hle : c.le ≤ o.length := by
    have hmin : c.le ≤ length - 0 := hc.le ▸ Nat.min_le_left _ _
    omega
  have h := Transfer.on hc ha hle (.done (by omega))
  have hvalue := (run_readFrom h (Nat.le_refl _)).1
  rw [Except.map, List.append_nil] at hvalue
  exact hvalue

/-! ## The main result -/

/-- Not every read keeps to its length, for the card need not keep to what it is asked for. What a
read brings is what its commands brought, and that is too much exactly if the last of them was
answered with more octets than were missing, which is more than it asked for. No read is too long if
the card answers each command with no more than that, but if it does not, a read of any length may
bring all octets that are at least as many. -/
theorem read_exceeds_iff (k : Connection) (offset length : Nat) :
    (∀ m cs v m' o, Transfer k offset length 0 m cs v m' →
      (k.read offset length m).value = .ok o →
        o = cs.flatMap Chunk.data ∧
        (length < o.length ↔ ∃ front c, cs = front ++ [c] ∧
          (front.flatMap Chunk.data).length < length ∧ c.le < c.data.length ∧
          length - (front.flatMap Chunk.data).length < c.data.length) ∧
        ((∀ c ∈ cs, c.data.length ≤ c.le) → o.length ≤ length)) ∧
    ∀ context, k.card = some context → offset ≤ 0x7FFF → 0 < length →
      ∀ o, length ≤ o.length → ∃ m, (k.read offset length m).value = .ok o := by
  refine ⟨fun m cs v m' o h hread => ?_, fun context hk hp hlength o ho => ?_⟩
  · have hv : v = .ok o := (run_readFrom h (Nat.le_refl _)).1.symm.trans hread
    obtain rfl := h.value_eq hv
    refine ⟨rfl, h.exceeds_iff, fun hkept => Nat.le_of_not_lt fun hlong => ?_⟩
    obtain ⟨front, c, rfl, -, hle, -⟩ := h.exceeds_iff.mp hlong
    exact Nat.not_le.mpr hle (hkept c (by simp))
  · exact ⟨generous o, read_generous hk hp hlength ho⟩

/-- The same three octets for a read of three and for a read of two, and many octets for one. -/
theorem read_exceeds_iff_three :
    let k : Connection := ⟨some 0, false⟩
    let kept : Chunk := ⟨0, 3, [[0x00, 0xB0, 0x00, 0x00, 0x03]], .ok [1, 2, 3]⟩
    let long : Chunk := ⟨0, 2, [[0x00, 0xB0, 0x00, 0x00, 0x02]], .ok [1, 2, 3]⟩
    ((∀ c ∈ [kept], c.data.length ≤ c.le) ∧
        ∃ o, (k.read 0 3 threeOctets).value = .ok o ∧ o.length ≤ 3) ∧
      ((k.read 0 2 threeOctets).value = .ok [1, 2, 3] ∧ ∃ front c, [long] = front ++ [c] ∧
        (front.flatMap Chunk.data).length < 2 ∧ c.le < c.data.length ∧
        2 - (front.flatMap Chunk.data).length < c.data.length) ∧
      ∃ m, (k.read 0x7FFF 1 m).value = .ok (List.replicate 20 0xEE) := by
  intro k kept long
  let m' : Manager := { Script.quiet with responses := [] }.start
  have hkept : Round k 0 3 0 threeOctets kept m' :=
    ⟨by decide, by decide, rfl, rfl, by decide +kernel, by decide +kernel, rfl⟩
  have hlong : Round k 0 2 0 threeOctets long m' :=
    ⟨by decide, by decide, rfl, rfl, by decide +kernel, by decide +kernel, rfl⟩
  have hvalue : (k.read 0 3 threeOctets).value = .ok [1, 2, 3] := by decide +kernel
  have hvalue' : (k.read 0 2 threeOctets).value = .ok [1, 2, 3] := by decide +kernel
  have hall : ∀ c ∈ [kept], c.data.length ≤ c.le := by
    rintro _ (_ | ⟨_, ⟨⟩⟩)
    decide
  obtain ⟨hread, -⟩ := read_exceeds_iff k 0 3
  obtain ⟨hread', -⟩ := read_exceeds_iff k 0 2
  obtain ⟨-, hany⟩ := read_exceeds_iff k 0x7FFF 1
  obtain ⟨-, -, hle⟩ := hread _ _ _ _ _ (.on hkept rfl (by decide) (.done (by decide))) hvalue
  obtain ⟨-, hiff, -⟩ := hread' _ _ _ _ _ (.on hlong rfl (by decide) (.done (by decide))) hvalue'
  exact ⟨⟨hall, _, hvalue, hle hall⟩, ⟨hvalue', hiff.mp (by decide)⟩,
    hany 0 rfl (by decide) (by decide) _ (by decide)⟩

/-- A read may bring more octets than it was asked for. -/
theorem not_read_length_le :
    ¬∀ (k : Connection) (offset length : Nat) (m : Manager) (o : Octets),
      (k.read offset length m).value = .ok o → o.length ≤ length := by
  intro h
  have hvalue : (Connection.read ⟨some 0, false⟩ 0 2 threeOctets).value = .ok [1, 2, 3] := by
    decide +kernel
  exact absurd (h _ _ _ _ _ hvalue) (by decide)

end SmartCard.Pcsc
