import Mathlib.Data.List.Induction
import SmartCard.Hex

/-!
# Hexadecimal text and the octets it spells

Octets are spelled with two digits each, and every digit may be of either case. Reading accepts
exactly these spellings. The digits of one case are one of them, so they are read back; the
upper-cased text is the same for all spellings of the same octets, and for no others.
-/
namespace SmartCard.Hex

/-! ## Digits -/

theorem digitValue?_digit (c : Case) {n : Nat} (h : n < 16) : digitValue? (digit c n) = some n := by
  have hall : ∀ m < 16, digitValue? (digit c m) = some m := by cases c <;> decide
  exact hall n h

theorem utf8Size_digit (c : Case) {n : Nat} (h : n < 16) : (digit c n).utf8Size = 1 := by
  have hall : ∀ m < 16, (digit c m).utf8Size = 1 := by cases c <;> decide
  exact hall n h

theorem toUpper_digit (c : Case) {n : Nat} (h : n < 16) : (digit c n).toUpper = digit .upper n := by
  have hall : ∀ m < 16, (digit c m).toUpper = digit .upper m := by cases c <;> decide
  exact hall n h

theorem high_lt (b : UInt8) : b.toNat / 16 < 16 := by
  have h := b.toNat_lt
  omega

theorem low_lt (b : UInt8) : b.toNat % 16 < 16 := Nat.mod_lt _ (by decide)

/-- A digit of either case. -/
def IsDigit (c : Char) : Prop :=
  ('0' ≤ c ∧ c ≤ '9') ∨ ('A' ≤ c ∧ c ≤ 'F') ∨ ('a' ≤ c ∧ c ≤ 'f')

instance (c : Char) : Decidable (IsDigit c) := inferInstanceAs (Decidable (_ ∨ _))

theorem isDigit_digit (c : Case) {n : Nat} (h : n < 16) : IsDigit (digit c n) := by
  have hall : ∀ m < 16, IsDigit (digit c m) := by cases c <;> decide
  exact hall n h

theorem IsDigit.toNat_lt {c : Char} (h : IsDigit c) : c.toNat < 103 := by
  simp only [IsDigit, Char.le_def, UInt32.le_iff_toNat_le] at h
  change _ ≤ c.toNat ∧ c.toNat ≤ 57 ∨ _ ≤ c.toNat ∧ c.toNat ≤ 70 ∨ _ ≤ c.toNat ∧ c.toNat ≤ 102 at h
  omega

theorem IsDigit.exists_digit {c : Char} (h : IsDigit c) : ∃ k, ∃ n < 16, digit k n = c := by
  have hall : ∀ m < 103, IsDigit (Char.ofNat m) →
      ∃ k ∈ [Case.upper, Case.lower], ∃ n < 16, digit k n = Char.ofNat m := by decide +kernel
  obtain ⟨k, -, n, hn, he⟩ := hall c.toNat h.toNat_lt (by rwa [Char.ofNat_toNat])
  exact ⟨k, n, hn, by rw [he, Char.ofNat_toNat]⟩

theorem exists_of_digitValue? {c : Char} {n : Nat} (h : digitValue? c = some n) :
    n < 16 ∧ ∃ k, digit k n = c := by
  have hc : IsDigit c := by
    rw [digitValue?] at h
    split_ifs at h with h0 hA ha
    exacts [.inl h0, .inr (.inl hA), .inr (.inr ha)]
  obtain ⟨k, m, hm, rfl⟩ := hc.exists_digit
  rw [digitValue?_digit k hm] at h
  cases h
  exact ⟨hm, k, rfl⟩

/-! ## Spellings -/

/-- Octets spelled with two digits each. -/
inductive Spells : List Char → Octets → Prop
  | nil : Spells [] []
  | octet (b : UInt8) (high low : Case) {text : List Char} {o : Octets} (h : Spells text o) :
      Spells (digit high (b.toNat / 16) :: digit low (b.toNat % 16) :: text) (b :: o)

@[simp] theorem digits_cons (c : Case) (b : UInt8) (o : Octets) :
    digits c (b :: o) = digit c (b.toNat / 16) :: digit c (b.toNat % 16) :: digits c o := rfl

theorem spells_pair {high low : Nat} (hhigh : high < 16) (hlow : low < 16) (c c' : Case)
    {text : List Char} {o : Octets} (h : Spells text o) :
    Spells (digit c high :: digit c' low :: text) (UInt8.ofNat (16 * high + low) :: o) := by
  have hb : (UInt8.ofNat (16 * high + low)).toNat = 16 * high + low :=
    UInt8.toNat_ofNat_of_lt' (by simp only [UInt8.size]; omega)
  have hspells := Spells.octet (UInt8.ofNat (16 * high + low)) c c' h
  rwa [hb, show (16 * high + low) / 16 = high by omega, show (16 * high + low) % 16 = low by omega]
    at hspells

theorem spells_digits (c : Case) (o : Octets) : Spells (digits c o) o := by
  induction o with
  | nil => exact .nil
  | cons b o ih => exact .octet b c c ih

section
variable {text text' : List Char} {o o' : Octets}

theorem Spells.length_eq (h : Spells text o) : text.length = 2 * o.length := by
  induction h with
  | nil => rfl
  | octet b high low h ih =>
    simp only [List.length_cons]
    omega

theorem Spells.isDigit (h : Spells text o) : ∀ c ∈ text, IsDigit c := by
  induction h with
  | nil => nofun
  | octet b high low h ih =>
    exact List.forall_mem_cons.mpr ⟨isDigit_digit high (high_lt b),
      List.forall_mem_cons.mpr ⟨isDigit_digit low (low_lt b), ih⟩⟩

/-- A text spells octets just when it consists of an even number of digits. -/
theorem exists_spells_iff : (∃ o, Spells text o) ↔ text.length % 2 = 0 ∧ ∀ c ∈ text, IsDigit c := by
  constructor
  · rintro ⟨o, h⟩
    exact ⟨by rw [h.length_eq]; omega, h.isDigit⟩
  · rintro ⟨heven, hdigit⟩
    induction text using List.twoStepInduction with
    | nil => exact ⟨[], .nil⟩
    | singleton a => cases heven
    | cons_cons a b text ih _ =>
      obtain ⟨ha, hb, htext⟩ : IsDigit a ∧ IsDigit b ∧ ∀ c ∈ text, IsDigit c := by
        simpa using hdigit
      obtain ⟨o, ho⟩ := ih (by simp only [List.length_cons] at heven; omega) htext
      obtain ⟨k, high, hhigh, rfl⟩ := ha.exists_digit
      obtain ⟨k', low, hlow, rfl⟩ := hb.exists_digit
      exact ⟨_, spells_pair hhigh hlow k k' ho⟩

/-- Digits of either case in groups of `n`, at least one group. -/
def InGroups (n : Nat) (s : String) : Prop :=
  s ≠ "" ∧ s.length % n = 0 ∧ ∀ c ∈ s.toList, IsDigit c

instance (n : Nat) (s : String) : Decidable (InGroups n s) :=
  decidable_of_iff (s ≠ "" ∧ s.length % n = 0 ∧ s.toList.all (IsDigit ·) = true)
    (by simp only [InGroups, List.all_eq_true, decide_eq_true_eq])

theorem inGroups_two_iff {s : String} : InGroups 2 s ↔ s ≠ "" ∧ ∃ o, Spells s.toList o := by
  rw [InGroups, exists_spells_iff, String.length_toList]

/-! ## Reading -/

theorem Spells.utf8Length_eq (h : Spells text o) : utf8Length text = 2 * o.length := by
  induction h with
  | nil => rfl
  | octet b high low h ih =>
    have hhigh := utf8Size_digit high (high_lt b)
    have hlow := utf8Size_digit low (low_lt b)
    simp only [utf8Length, List.length_cons]
    omega

theorem Spells.decodeFrom_eq (h : Spells text o) (index : Nat) : decodeFrom index text = .ok o := by
  induction h generalizing index with
  | nil => rfl
  | octet b high low h ih =>
    have hb : UInt8.ofNat (16 * (b.toNat / 16) + b.toNat % 16) = b := by
      rw [Nat.div_add_mod, UInt8.ofNat_toNat]
    rw [decodeFrom, digitValue?_digit high (high_lt b), digitValue?_digit low (low_lt b)]
    simp only [ih, hb]
    rfl

theorem spells_of_decodeFrom {index : Nat} (h : decodeFrom index text = .ok o) : Spells text o := by
  induction text using List.twoStepInduction generalizing index o with
  | nil =>
    cases h
    exact .nil
  | singleton a => cases h
  | cons_cons a b text ih _ =>
    rw [decodeFrom] at h
    split at h
    next => cases h
    next => cases h
    next high low ha hb =>
      obtain ⟨hhigh, k, rfl⟩ := exists_of_digitValue? ha
      obtain ⟨hlow, k', rfl⟩ := exists_of_digitValue? hb
      cases ht : decodeFrom (index + 2) text with
      | error e =>
        rw [ht] at h
        cases h
      | ok o' =>
        rw [ht] at h
        cases h
        exact spells_pair hhigh hlow k k' (ih ht)

theorem decode_eq_ok_iff {s : String} : decode s = .ok o ↔ Spells s.toList o := by
  rw [decode]
  constructor
  · intro h
    split at h
    next => cases h
    next => exact spells_of_decodeFrom h
  · intro h
    have heven : utf8Length s.toList % 2 ≠ 1 := by
      rw [h.utf8Length_eq]
      omega
    rw [if_neg heven, h.decodeFrom_eq]

@[simp] theorem decode_encode (c : Case) (o : Octets) : decode (encode c o) = .ok o := by
  rw [decode_eq_ok_iff, encode, String.toList_ofList]
  exact spells_digits c o

/-! ## Upper case -/

theorem Spells.digits_upper (h : Spells text o) : digits .upper o = text.map Char.toUpper := by
  induction h with
  | nil => rfl
  | octet b high low h ih =>
    rw [digits_cons, ih, List.map_cons, List.map_cons, toUpper_digit high (high_lt b),
      toUpper_digit low (low_lt b)]

end

section
variable {s s' : String} {o o' : Octets}

theorem toUpper_eq_iff :
    s.toUpper = s'.toUpper ↔ s.toList.map Char.toUpper = s'.toList.map Char.toUpper := by
  rw [← String.toList_inj, String.toUpper, String.toUpper, String.toList_map, String.toList_map]

theorem spells_upper (o : Octets) : Spells (upper o).toList o := by
  rw [upper, encode, String.toList_ofList]
  exact spells_digits .upper o

theorem upper_eq_empty_iff : upper o = "" ↔ o = [] := by
  cases o with
  | nil => exact ⟨fun _ => rfl, fun _ => rfl⟩
  | cons b o => simp [upper, encode]

/-- Upper-casing a text leads to the one upper-case spelling. -/
theorem upper_eq_toUpper (h : Spells s.toList o) : upper o = s.toUpper := by
  rw [← String.toList_inj, upper, encode, String.toList_ofList, h.digits_upper, String.toUpper,
    String.toList_map]

theorem upper_inj : upper o = upper o' ↔ o = o' := by
  constructor
  · intro h
    have hread : decode (upper o) = decode (upper o') := congrArg decode h
    rw [decode_encode, decode_encode] at hread
    exact Except.ok.inj hread
  · rintro rfl
    rfl

/-- Two texts spell the same octets just when they differ in case only. -/
theorem eq_iff_toUpper_eq (h : Spells s.toList o) (h' : Spells s'.toList o') :
    o = o' ↔ s.toUpper = s'.toUpper := by
  rw [← upper_eq_toUpper h, ← upper_eq_toUpper h', upper_inj]

end

end SmartCard.Hex
