import SmartCard.Sexp

/-!
# S-expressions read back from their canonical form

The length of an atom is written in decimal digits, which end at the colon whatever the octets of
the atom are; zeros in front of them do not change the length. A list ends at its own closing
parenthesis, for no expression starts with one. So each expression is read back from what is written
of it, with or without such zeros, whatever stands behind.
-/
namespace SmartCard.Sexp

/-! ## Atoms -/

/-- The digits of a number, as octets. -/
def decimalDigits (n : Nat) : Octets := Octets.ofText (toString n)

theorem decimalDigits_eq (n : Nat) :
    decimalDigits n = (Nat.toDigits 10 n).map fun c => UInt8.ofNat c.toNat := by
  rw [decimalDigits, Octets.ofText, Nat.toString_eq_ofList_toDigits, String.toList_ofList]

theorem toNat_ofNat_digit {c : Char} (h : c.isDigit = true) :
    (UInt8.ofNat c.toNat).toNat = c.toNat := by
  obtain ⟨-, hhigh⟩ := Char.isDigit_iff_toNat.mp h
  change c.toNat ≤ 57 at hhigh
  exact UInt8.toNat_ofNat_of_lt' (Nat.lt_of_le_of_lt hhigh (by decide))

theorem isDigit_ofNat {c : Char} (h : c.isDigit = true) : isDigit (UInt8.ofNat c.toNat) = true := by
  rw [isDigit, Bool.and_eq_true, decide_eq_true_iff, decide_eq_true_iff, UInt8.le_iff_toNat_le,
    UInt8.le_iff_toNat_le, toNat_ofNat_digit h]
  exact Char.isDigit_iff_toNat.mp h

theorem isDigit_of_mem_decimalDigits {n : Nat} {b : UInt8} (h : b ∈ decimalDigits n) :
    isDigit b = true := by
  rw [decimalDigits_eq] at h
  obtain ⟨c, hc, rfl⟩ := List.mem_map.mp h
  exact isDigit_ofNat (Nat.isDigit_of_mem_toDigits (by decide) (by decide) hc)

theorem foldl_digits {cs : List Char} (hcs : ∀ c ∈ cs, c.isDigit = true) (m : Nat) :
    (cs.map fun c => UInt8.ofNat c.toNat).foldl (fun n d => 10 * n + (d.toNat - 0x30)) m =
      Nat.ofDigitChars 10 cs m := by
  induction cs generalizing m with
  | nil => rfl
  | cons c cs ih =>
    obtain ⟨hc, hcs⟩ := List.forall_mem_cons.mp hcs
    rw [List.map_cons, List.foldl_cons, toNat_ofNat_digit hc, Nat.ofDigitChars_cons]
    exact ih hcs _

theorem decimal_decimalDigits (n : Nat) : decimal (decimalDigits n) = n := by
  have hdigits := fun c (hc : c ∈ Nat.toDigits 10 n) =>
    Nat.isDigit_of_mem_toDigits (by decide) (by decide) hc
  rw [decimal, decimalDigits_eq, foldl_digits hdigits]
  exact Nat.ofDigitChars_ten_toDigits

theorem exists_decimalDigits (n : Nat) :
    ∃ d ds, decimalDigits n = d :: ds ∧ isDigit d = true := by
  cases h : decimalDigits n with
  | nil =>
    rw [decimalDigits_eq, List.map_eq_nil_iff] at h
    exact absurd h Nat.toDigits_ne_nil
  | cons d ds => exact ⟨d, ds, rfl, isDigit_of_mem_decimalDigits (h ▸ List.mem_cons_self)⟩

/-- Zeros before a number do not change it. -/
theorem decimal_replicate_append (zeros : Nat) (digits : Octets) :
    decimal (List.replicate zeros 0x30 ++ digits) = decimal digits := by
  induction zeros with
  | zero => rfl
  | succ zeros ih => exact ih

/-- The digits end at the colon, so the octets of an atom may be any. -/
theorem parseAtom_digits {digits octets : Octets} (hdigits : ∀ b ∈ digits, isDigit b = true)
    (hvalue : decimal digits = octets.length) (tail : Octets) :
    parseAtom (digits ++ 0x3A :: (octets ++ tail)) = some (octets, tail) := by
  have hcolon : ¬ isDigit 0x3A = true := by decide
  rw [parseAtom, List.dropWhile_append_of_pos hdigits, List.takeWhile_append_of_pos hdigits,
    List.dropWhile_cons_of_neg hcolon, List.takeWhile_cons_of_neg hcolon, List.append_nil, hvalue]
  exact Octets.split?_eq_some_iff.mpr ⟨rfl, rfl⟩

/-- Digits for the length of an atom, before its colon, with zeros in front. -/
theorem exists_paddedDigits (octets : Octets) (zeros : Nat) :
    ∃ d ds, List.replicate zeros 0x30 ++ writeAtom octets = d :: ds ++ 0x3A :: octets ∧
      (∀ b ∈ d :: ds, isDigit b = true) ∧ decimal (d :: ds) = octets.length := by
  have hdigits : ∀ b ∈ List.replicate zeros 0x30 ++ decimalDigits octets.length,
      isDigit b = true := by
    intro b hb
    rcases List.mem_append.mp hb with hzero | hdigit
    · rw [(List.mem_replicate.mp hzero).2]
      decide
    · exact isDigit_of_mem_decimalDigits hdigit
  have hvalue := decimal_replicate_append zeros (decimalDigits octets.length)
  rw [decimal_decimalDigits] at hvalue
  have hspelling : List.replicate zeros 0x30 ++ writeAtom octets =
      (List.replicate zeros 0x30 ++ decimalDigits octets.length) ++ 0x3A :: octets := by
    rw [writeAtom, decimalDigits, List.append_assoc]
  obtain ⟨b, bs, hne, -⟩ := exists_decimalDigits octets.length
  cases h : List.replicate zeros 0x30 ++ decimalDigits octets.length with
  | nil =>
    rw [hne] at h
    exact absurd h (List.append_ne_nil_of_right_ne_nil _ (List.cons_ne_nil b bs))
  | cons d ds =>
    rw [h] at hdigits hvalue hspelling
    exact ⟨d, ds, hspelling, hdigits, hvalue⟩

/-! ## Expressions -/

mutual

/-- A spelling of an expression with as many zeros in front of the lengths of its atoms. -/
inductive Padded : Sexp → (zeros : Nat) → Octets → Prop
  | atom (octets : Octets) (zeros : Nat) :
      Padded (atom octets) zeros (List.replicate zeros 0x30 ++ writeAtom octets)
  | list {items : List Sexp} {zeros : Nat} {spelling : Octets}
      (h : PaddedItems items zeros spelling) :
      Padded (list items) zeros (0x28 :: spelling ++ [0x29])

/-- Such spellings of the items of a list, one behind the other. -/
inductive PaddedItems : List Sexp → (zeros : Nat) → Octets → Prop
  | nil : PaddedItems [] 0 []
  | cons {item : Sexp} {items : List Sexp} {zeros zeros' : Nat} {first rest : Octets}
      (h : Padded item zeros first) (hs : PaddedItems items zeros' rest) :
      PaddedItems (item :: items) (zeros + zeros') (first ++ rest)

end

mutual

theorem padded_write : ∀ t : Sexp, Padded t 0 t.write
  | atom octets => by
    rw [write]
    exact .atom octets 0
  | list items => by
    rw [write]
    exact .list (paddedItems_writeItems items)

theorem paddedItems_writeItems : ∀ items : List Sexp, PaddedItems items 0 (writeItems items)
  | [] => by
    rw [writeItems]
    exact .nil
  | item :: items => by
    rw [writeItems]
    exact .cons (padded_write item) (paddedItems_writeItems items)

end

/-- An expression does not start as a list ends. -/
theorem Padded.exists_cons {t : Sexp} {zeros : Nat} {spelling : Octets}
    (h : Padded t zeros spelling) : ∃ b rest, spelling = b :: rest ∧ b ≠ 0x29 := by
  cases h with
  | atom octets zeros =>
    obtain ⟨d, ds, hspelling, hdigits, -⟩ := exists_paddedDigits octets zeros
    refine ⟨d, ds ++ 0x3A :: octets, hspelling, ?_⟩
    rintro rfl
    exact absurd (hdigits _ List.mem_cons_self) (by decide)
  | list => exact ⟨0x28, _, rfl, by decide⟩

theorem Padded.length_pos {t : Sexp} {zeros : Nat} {spelling : Octets}
    (h : Padded t zeros spelling) : 0 < spelling.length := by
  obtain ⟨b, rest, rfl, -⟩ := h.exists_cons
  exact Nat.succ_pos _

theorem parseWithin_digit {b : UInt8} (hb : isDigit b = true) (fuel : Nat) (rest : Octets) :
    parseWithin (fuel + 1) (b :: rest) =
      (parseAtom (b :: rest)).map fun (octets, tail) => (atom octets, tail) := by
  have hopen : b ≠ 0x28 := by
    rintro rfl
    exact absurd hb (by decide)
  rw [parseWithin, if_neg hopen, if_pos hb]

theorem itemsWithin_cons {b : UInt8} (hb : b ≠ 0x29) (fuel : Nat) (rest : Octets) :
    itemsWithin (fuel + 1) (b :: rest) =
      (parseWithin fuel (b :: rest)).bind fun (item, tail) =>
        (itemsWithin fuel tail).map fun (items, tail) => (item :: items, tail) := by
  rw [itemsWithin]
  intro tail h
  exact hb (List.cons.inj h).1

-- Each list needs one step for itself and one for its closing parenthesis, each atom one step;
-- twice the octets that are spelled cover them all.
mutual

theorem Padded.parseWithin_append : ∀ {t : Sexp} {zeros : Nat} {spelling : Octets},
    Padded t zeros spelling → ∀ (fuel : Nat) (tail : Octets), 2 * spelling.length ≤ fuel →
      parseWithin fuel (spelling ++ tail) = some (t, tail)
  | _, _, _, h, 0, _, hfuel => by
    have hpos := h.length_pos
    omega
  | _, _, _, .atom octets zeros, fuel + 1, tail, _ => by
    obtain ⟨d, ds, hspelling, hdigits, hvalue⟩ := exists_paddedDigits octets zeros
    have hparse := parseAtom_digits hdigits hvalue tail
    rw [List.cons_append] at hparse
    rw [hspelling, List.append_assoc, List.cons_append, List.cons_append,
      parseWithin_digit (hdigits d List.mem_cons_self), hparse]
    rfl
  | _, _, _, .list h, fuel + 1, tail, hfuel => by
    rw [List.length_append, List.length_cons, List.length_singleton] at hfuel
    have hitems := h.itemsWithin_append fuel tail (by omega)
    rw [List.append_assoc, List.cons_append, parseWithin, if_pos rfl, List.singleton_append,
      hitems]
    rfl

theorem PaddedItems.itemsWithin_append : ∀ {items : List Sexp} {zeros : Nat} {spelling : Octets},
    PaddedItems items zeros spelling → ∀ (fuel : Nat) (tail : Octets),
      2 * spelling.length + 1 ≤ fuel →
        itemsWithin fuel (spelling ++ 0x29 :: tail) = some (items, tail)
  | _, _, _, _, 0, _, hfuel => by omega
  | _, _, _, .nil, fuel + 1, tail, _ => by rw [List.nil_append, itemsWithin]
  | _, _, _, @PaddedItems.cons _ _ _ _ first rest h hs, fuel + 1, tail, hfuel => by
    obtain ⟨b, front, hfirst, hb⟩ := h.exists_cons
    have hpos := h.length_pos
    rw [List.length_append] at hfuel
    have hitem := h.parseWithin_append fuel (rest ++ 0x29 :: tail) (by omega)
    have hitems := hs.itemsWithin_append fuel tail (by omega)
    rw [hfirst, List.cons_append] at hitem
    rw [List.append_assoc, hfirst, List.cons_append, itemsWithin_cons hb]
    simp only [hitem, Option.bind_some, hitems, Option.map_some]

end

/-- Whatever stands behind an expression, it is read back from each of these spellings. -/
theorem Padded.parse_append {t : Sexp} {zeros : Nat} {spelling : Octets}
    (h : Padded t zeros spelling) (tail : Octets) : parse (spelling ++ tail) = some (t, tail) := by
  refine h.parseWithin_append _ tail ?_
  rw [List.length_append]
  omega

/-- Whatever stands behind an expression, it is read back from what is written of it. -/
theorem parse_write (t : Sexp) (tail : Octets) : parse (t.write ++ tail) = some (t, tail) :=
  (padded_write t).parse_append tail

end SmartCard.Sexp
