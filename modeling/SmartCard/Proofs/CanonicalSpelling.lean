import Mathlib.Data.List.Induction
import SmartCard.Proofs.SexpRoundTrip

/-!
# The canonical spelling of an S-expression

An expression has one canonical spelling: the length of an atom stands in decimal digits, the first
of which is no zero unless it is the only one. What is written of an expression is that spelling. It
is read back with any octets behind it, so no two expressions share a spelling, and no spelling is
the start of another.
-/
namespace SmartCard.Sexp

/-! ## Numerals -/

/-- The digits write the number, without leading zeros. -/
structure IsNumeral (n : Nat) (digits : Octets) : Prop where
  isDigit : ∀ b ∈ digits, isDigit b = true
  value : decimal digits = n
  ne_nil : digits ≠ []
  lead : digits.head? = some 0x30 → digits = [0x30]

/-- The octet of a digit. -/
def digitOctet (d : Nat) : UInt8 := UInt8.ofNat (0x30 + d)

theorem decimalDigits_of_lt {n : Nat} (h : n < 10) : decimalDigits n = [digitOctet n] := by
  rw [decimalDigits_eq, Nat.toDigits_of_lt_base h, List.map_singleton,
    Nat.toNat_digitChar_of_lt_ten h, digitOctet]

theorem decimalDigits_of_le {n : Nat} (h : 10 ≤ n) :
    decimalDigits n = decimalDigits (n / 10) ++ [digitOctet (n % 10)] := by
  have hlast : n % 10 < 10 := Nat.mod_lt n (by decide)
  rw [decimalDigits_eq, Nat.toDigits_of_base_le (by decide) h, List.map_append, List.map_singleton,
    Nat.toNat_digitChar_of_lt_ten hlast, ← decimalDigits_eq, digitOctet]

theorem exists_digitOctet {b : UInt8} (h : isDigit b = true) :
    ∃ d, d < 10 ∧ b = digitOctet d ∧ b.toNat - 0x30 = d := by
  rw [isDigit, Bool.and_eq_true, decide_eq_true_iff, decide_eq_true_iff, UInt8.le_iff_toNat_le,
    UInt8.le_iff_toNat_le] at h
  obtain ⟨hlow, hhigh⟩ := h
  change 48 ≤ b.toNat at hlow
  change b.toNat ≤ 57 at hhigh
  refine ⟨b.toNat - 48, by omega, ?_, rfl⟩
  rw [digitOctet, Nat.add_sub_cancel' hlow, UInt8.ofNat_toNat]

theorem decimal_append_singleton (front : Octets) (b : UInt8) :
    decimal (front ++ [b]) = 10 * decimal front + (b.toNat - 0x30) := by
  rw [decimal, List.foldl_append]
  rfl

theorem lead_decimalDigits (n : Nat) (h : (decimalDigits n).head? = some 0x30) :
    decimalDigits n = [0x30] := by
  induction n using Nat.strongRecOn with
  | ind n ih =>
    by_cases hn : n < 10
    · rw [decimalDigits_of_lt hn] at h ⊢
      rw [List.head?_cons, Option.some_inj] at h
      rw [h]
    · -- The first digit is that of the tenth part, which would have to be zero.
      obtain ⟨d, ds, hds, -⟩ := exists_decimalDigits (n / 10)
      have hhead : (decimalDigits (n / 10)).head? = some 0x30 := by
        rw [decimalDigits_of_le (Nat.le_of_not_lt hn), hds] at h
        rwa [hds]
      have hzero := congrArg decimal (ih (n / 10) (by omega) hhead)
      rw [decimal_decimalDigits] at hzero
      have hvalue : n / 10 = 0 := hzero
      omega

theorem isNumeral_decimalDigits (n : Nat) : IsNumeral n (decimalDigits n) where
  isDigit _ h := isDigit_of_mem_decimalDigits h
  value := decimal_decimalDigits n
  ne_nil := by
    obtain ⟨d, ds, hds, -⟩ := exists_decimalDigits n
    rw [hds]
    exact List.cons_ne_nil d ds
  lead := lead_decimalDigits n

/-- A number has one numeral. -/
theorem IsNumeral.eq_decimalDigits {n : Nat} {digits : Octets} (h : IsNumeral n digits) :
    digits = decimalDigits n := by
  -- Induction on the last digit: what stands before it is a numeral too, and not that of zero.
  induction digits using List.reverseRecOn generalizing n with
  | nil => exact absurd rfl h.ne_nil
  | append_singleton front b ih =>
    obtain ⟨hdigits, rfl, -, hlead⟩ := h
    obtain ⟨d, hd, hb, hvalue⟩ := exists_digitOctet (hdigits b (by simp))
    rw [decimal_append_singleton, hvalue]
    cases front with
    | nil =>
      have hzero : decimal [] = 0 := rfl
      rw [hzero, Nat.mul_zero, Nat.zero_add, decimalDigits_of_lt hd, hb, List.nil_append]
    | cons c front =>
      have hc : c ≠ 0x30 := by
        rintro rfl
        have hnil : front ++ [b] = [] := (List.cons.inj (hlead rfl)).2
        exact List.append_ne_nil_of_right_ne_nil front (List.cons_ne_nil b []) hnil
      have hfront : IsNumeral (decimal (c :: front)) (c :: front) := by
        refine ⟨fun x hx => hdigits x (List.mem_append_left _ hx), rfl, List.cons_ne_nil _ _, ?_⟩
        exact fun h => absurd (Option.some_inj.mp h) hc
      have hspelled := ih hfront
      generalize decimal (c :: front) = q at hspelled
      have hq : 0 < q := by
        refine Nat.pos_of_ne_zero ?_
        rintro rfl
        rw [decimalDigits_of_lt (by decide)] at hspelled
        exact hc (List.cons.inj hspelled).1
      have htenth : (10 * q + d) / 10 = q := by omega
      have hlast : (10 * q + d) % 10 = d := by omega
      rw [decimalDigits_of_le (by omega), htenth, hlast, ← hspelled, hb]

/-! ## Spellings -/

mutual

/-- The canonical spelling of an expression. -/
inductive Spells : Sexp → Octets → Prop
  | atom {octets digits : Octets} (h : IsNumeral octets.length digits) :
      Spells (atom octets) (digits ++ 0x3A :: octets)
  | list {items : List Sexp} {spelling : Octets} (h : SpellsItems items spelling) :
      Spells (list items) (0x28 :: spelling ++ [0x29])

/-- The spellings of the items of a list, one behind the other. -/
inductive SpellsItems : List Sexp → Octets → Prop
  | nil : SpellsItems [] []
  | cons {item : Sexp} {items : List Sexp} {first rest : Octets} (h : Spells item first)
      (hs : SpellsItems items rest) : SpellsItems (item :: items) (first ++ rest)

end

mutual

theorem spells_write : ∀ t : Sexp, Spells t t.write
  | atom octets => by
    have hwrite : write (atom octets) = decimalDigits octets.length ++ 0x3A :: octets := by
      rw [write, writeAtom, decimalDigits]
    rw [hwrite]
    exact .atom (isNumeral_decimalDigits _)
  | list items => by
    rw [write]
    exact .list (spellsItems_writeItems items)

theorem spellsItems_writeItems : ∀ items : List Sexp, SpellsItems items (writeItems items)
  | [] => by
    rw [writeItems]
    exact .nil
  | item :: items => by
    rw [writeItems]
    exact .cons (spells_write item) (spellsItems_writeItems items)

end

mutual

theorem Spells.eq_write : ∀ {t : Sexp} {spelling : Octets}, Spells t spelling → spelling = t.write
  | atom octets, _, .atom h => by rw [write, writeAtom, h.eq_decimalDigits, decimalDigits]
  | list items, _, .list h => by rw [write, h.eq_writeItems]

theorem SpellsItems.eq_writeItems : ∀ {items : List Sexp} {spelling : Octets},
    SpellsItems items spelling → spelling = writeItems items
  | [], _, .nil => by rw [writeItems]
  | item :: items, _, .cons h hs => by rw [writeItems, h.eq_write, hs.eq_writeItems]

end

/-! ## The main result -/

theorem eq_of_write_isPrefix {t t' : Sexp} (h : t'.write <+: t.write) : t' = t := by
  obtain ⟨rest, hrest⟩ := h
  have hread := parse_write t' rest
  have hwhole := parse_write t []
  rw [hrest, ← List.append_nil t.write, hwhole] at hread
  exact (Prod.mk.inj (Option.some.inj hread)).1.symm

/-- Writing an expression gives its one canonical spelling, which is read back whatever stands
behind it. No other expression has the same spelling, or one that it starts with. -/
theorem canonical_reads_back (t : Sexp) (tail : Octets) :
    parse (t.write ++ tail) = some (t, tail) ∧
      (∀ spelling, Spells t spelling ↔ spelling = t.write) ∧
      (∀ t' : Sexp, t'.write = t.write ↔ t' = t) ∧
      ∀ t' : Sexp, t'.write <+: t.write ↔ t' = t := by
  refine ⟨parse_write t tail, fun spelling => ⟨Spells.eq_write, ?_⟩, fun t' => ⟨?_, ?_⟩,
    fun t' => ⟨eq_of_write_isPrefix, ?_⟩⟩
  · rintro rfl
    exact spells_write t
  · exact fun h => eq_of_write_isPrefix (h ▸ List.prefix_rfl)
  · rintro rfl
    rfl
  · rintro rfl
    exact List.prefix_rfl

/-- The octets of an atom may look like any part of a spelling. -/
example : (list [atom (Octets.ofText "a)(1:"), list [], atom []]).write =
    Octets.ofText "(5:a)(1:()0:)" := by decide +kernel

end SmartCard.Sexp
