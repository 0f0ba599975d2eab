import Mathlib.Data.List.TakeWhile
import SmartCard.Keygrip
import SmartCard.Proofs.CanonicalSpelling

/-!
# The spellings that are accepted

The reader does not ask whether the length of an atom starts with a zero. Zeros in front of such
lengths are all that it lets pass: what is accepted is a canonical spelling with zeros put in there,
and it is longer than that by as many octets. A key has the same keygrip in each of its spellings.
-/
namespace SmartCard

namespace Sexp

variable {b : UInt8} {x octets rest tail spelling : Octets} {t : Sexp} {zeros : Nat}

/-! ## What the reader takes -/

/-- Digits are the numeral of their number with zeros in front. -/
theorem exists_zeros {digits : Octets} (hdigits : ∀ b ∈ digits, isDigit b = true)
    (hne : digits ≠ []) :
    ∃ zeros, digits = List.replicate zeros 0x30 ++ decimalDigits (decimal digits) := by
  induction digits with
  | nil => exact absurd rfl hne
  | cons d ds ih =>
    by_cases h : d = 0x30 ∧ ds ≠ []
    · obtain ⟨rfl, hds⟩ := h
      obtain ⟨zeros, hzeros⟩ := ih (fun b hb => hdigits b (List.mem_cons_of_mem _ hb)) hds
      have hvalue : decimal (0x30 :: ds) = decimal ds := decimal_replicate_append 1 ds
      exact ⟨zeros + 1, by rw [hvalue, List.replicate_succ, List.cons_append, ← hzeros]⟩
    · have hlead : (d :: ds).head? = some 0x30 → d :: ds = [0x30] := by
        intro hd
        cases Option.some_inj.mp hd
        rw [not_and_not_right.mp h rfl]
      have hnumeral : IsNumeral (decimal (d :: ds)) (d :: ds) := ⟨hdigits, rfl, hne, hlead⟩
      exact ⟨0, hnumeral.eq_decimalDigits⟩

/-- An atom is read from its canonical spelling with zeros in front. -/
theorem exists_of_parseAtom (hb : isDigit b = true)
    (h : parseAtom (b :: rest) = some (octets, tail)) :
    ∃ zeros, b :: rest = List.replicate zeros 0x30 ++ writeAtom octets ++ tail := by
  rw [parseAtom] at h
  split at h
  next body hbody =>
    obtain ⟨rfl, hlength⟩ := Octets.split?_eq_some_iff.mp h
    have hdigits : ∀ b' ∈ (b :: rest).takeWhile isDigit, isDigit b' = true := fun _ hb' =>
      List.mem_takeWhile_imp hb'
    have hne : (b :: rest).takeWhile isDigit ≠ [] := by
      rw [List.takeWhile_cons_of_pos hb]
      exact List.cons_ne_nil _ _
    obtain ⟨zeros, hzeros⟩ := exists_zeros hdigits hne
    refine ⟨zeros, ?_⟩
    calc b :: rest
        = (b :: rest).takeWhile isDigit ++ 0x3A :: (octets ++ tail) := by
          rw [← hbody, List.takeWhile_append_dropWhile]
      _ = List.replicate zeros 0x30 ++ decimalDigits octets.length ++ 0x3A :: (octets ++ tail) := by
          rw [hlength, ← hzeros]
      _ = List.replicate zeros 0x30 ++ writeAtom octets ++ tail := by
          simp [writeAtom, decimalDigits]
  next => cases h

mutual

theorem exists_of_parseWithin : ∀ (fuel : Nat) {x : Octets} {t : Sexp} {tail : Octets},
    parseWithin fuel x = some (t, tail) →
      ∃ zeros spelling, Padded t zeros spelling ∧ x = spelling ++ tail
  | 0, _, _, _, h => by cases h
  | _ + 1, [], _, _, h => by cases h
  | fuel + 1, b :: rest, t, tail, h => by
    rw [parseWithin] at h
    split_ifs at h with hopen hb
    · obtain ⟨⟨items, tail'⟩, hitems, heq⟩ := Option.map_eq_some_iff.mp h
      cases heq
      obtain ⟨zeros, spelling, hpadded, rfl⟩ := exists_of_itemsWithin fuel hitems
      exact ⟨zeros, _, .list hpadded, by simp [hopen]⟩
    · obtain ⟨⟨octets, tail'⟩, hatom, heq⟩ := Option.map_eq_some_iff.mp h
      cases heq
      obtain ⟨zeros, hzeros⟩ := exists_of_parseAtom hb hatom
      exact ⟨zeros, _, .atom octets zeros, hzeros⟩

theorem exists_of_itemsWithin : ∀ (fuel : Nat) {x : Octets} {items : List Sexp} {tail : Octets},
    itemsWithin fuel x = some (items, tail) →
      ∃ zeros spelling, PaddedItems items zeros spelling ∧ x = spelling ++ 0x29 :: tail
  | 0, _, _, _, h => by cases h
  | fuel + 1, x, items, tail, h => by
    unfold itemsWithin at h
    split at h
    next tail' =>
      cases h
      exact ⟨0, [], .nil, rfl⟩
    next =>
      obtain ⟨⟨item, rest⟩, hitem, hrest⟩ := Option.bind_eq_some_iff.mp h
      obtain ⟨⟨items', tail'⟩, hitems, heq⟩ := Option.map_eq_some_iff.mp hrest
      cases heq
      obtain ⟨zeros, first, hfirst, rfl⟩ := exists_of_parseWithin fuel hitem
      obtain ⟨zeros', spelling, hspelling, rfl⟩ := exists_of_itemsWithin fuel hitems
      exact ⟨zeros + zeros', _, .cons hfirst hspelling, (List.append_assoc _ _ _).symm⟩

end

/-- The reader takes the spellings with zeros in front of lengths, whatever stands behind, and no
others. -/
theorem parse_eq_some_iff :
    parse x = some (t, tail) ↔
      ∃ zeros spelling, Padded t zeros spelling ∧ x = spelling ++ tail := by
  refine ⟨exists_of_parseWithin _, ?_⟩
  rintro ⟨zeros, spelling, h, rfl⟩
  exact h.parse_append tail

theorem parse_append (h : parse x = some (t, rest)) (tail : Octets) :
    parse (x ++ tail) = some (t, rest ++ tail) := by
  obtain ⟨zeros, spelling, hspelling, rfl⟩ := parse_eq_some_iff.mp h
  rw [List.append_assoc]
  exact hspelling.parse_append (rest ++ tail)

/-! ## Lengths -/

mutual

/-- The zeros are what a spelling has more than the canonical one. -/
theorem Padded.length_eq : ∀ {t : Sexp} {zeros : Nat} {spelling : Octets},
    Padded t zeros spelling → spelling.length = t.write.length + zeros
  | _, _, _, .atom octets zeros => by
    rw [write, List.length_append, List.length_replicate, Nat.add_comm]
  | _, _, _, .list h => by
    have hitems := h.length_eq
    rw [write]
    simp only [List.length_append, List.length_cons, hitems]
    omega

theorem PaddedItems.length_eq : ∀ {items : List Sexp} {zeros : Nat} {spelling : Octets},
    PaddedItems items zeros spelling → spelling.length = (writeItems items).length + zeros
  | _, _, _, .nil => rfl
  | _, _, _, .cons h hs => by
    have hfirst := h.length_eq
    have hrest := hs.length_eq
    rw [writeItems, List.length_append, List.length_append, hfirst, hrest]
    omega

end

mutual

theorem Padded.eq_write : ∀ {t : Sexp} {zeros : Nat} {spelling : Octets},
    Padded t zeros spelling → zeros = 0 → spelling = t.write
  | _, _, _, .atom octets zeros, hzero => by
    rw [hzero, write]
    rfl
  | _, _, _, .list h, hzero => by rw [write, h.eq_writeItems hzero]

theorem PaddedItems.eq_writeItems : ∀ {items : List Sexp} {zeros : Nat} {spelling : Octets},
    PaddedItems items zeros spelling → zeros = 0 → spelling = writeItems items
  | _, _, _, .nil, _ => by rw [writeItems]
  | _, _, _, .cons h hs, hzero => by
    obtain ⟨hfirst, hrest⟩ := Nat.add_eq_zero_iff.mp hzero
    rw [writeItems, h.eq_write hfirst, hs.eq_writeItems hrest]

end

theorem Padded.eq_write_iff (h : Padded t zeros spelling) : spelling = t.write ↔ zeros = 0 := by
  refine ⟨fun heq => ?_, h.eq_write⟩
  have hlength := h.length_eq
  rw [heq] at hlength
  omega

/-- Without zeros a spelling is canonical. -/
theorem Padded.spells_iff (h : Padded t zeros spelling) : Spells t spelling ↔ zeros = 0 := by
  rw [← h.eq_write_iff]
  refine ⟨Spells.eq_write, ?_⟩
  rintro rfl
  exact spells_write t

end Sexp

/-! ## Keygrips -/

namespace Keygrip

variable {x : Octets} {s : Sexp}

theorem ofCanonical?_of_parse (h : Sexp.parse x = some (s, [])) : ofCanonical? x = ofSexp? s := by
  rw [ofCanonical?, h]

theorem ofCanonical?_eq_some_iff {g : Keygrip} :
    ofCanonical? x = some g ↔ ∃ s, Sexp.parse x = some (s, []) ∧ ofSexp? s = some g := by
  constructor
  · intro h
    rw [ofCanonical?] at h
    split at h
    next s hparse => exact ⟨s, hparse, h⟩
    next => cases h
  · rintro ⟨s, hparse, h⟩
    rw [ofCanonical?_of_parse hparse, h]

/-- The zeros in a spelling do not change the keygrip. -/
theorem ofCanonical?_padded {zeros : Nat} (h : Sexp.Padded s zeros x) :
    ofCanonical? x = ofCanonical? s.write := by
  have hparse := h.parse_append []
  have hwrite := Sexp.parse_write s []
  rw [List.append_nil] at hparse hwrite
  rw [ofCanonical?_of_parse hparse, ofCanonical?_of_parse hwrite]

end Keygrip

/-! ## The main result -/

namespace Sexp

open Octets (ofText)

/-- An expression is read exactly if it stands at the front, spelled with any number of zeros in
front of the lengths of its atoms. The spelling is longer by as many octets than the canonical one,
and is itself canonical exactly without any. What has a keygrip is such a spelling of a key from end
to end, and the canonical spelling has the same keygrip. -/
theorem accepted_up_to_zeros (x : Octets) :
    (∀ t tail, parse x = some (t, tail) ↔
      ∃ zeros spelling, Padded t zeros spelling ∧ x = spelling ++ tail) ∧
    (∀ t tail zeros spelling, Padded t zeros spelling → x = spelling ++ tail →
      spelling.length = t.write.length + zeros ∧ (Spells t spelling ↔ zeros = 0) ∧
        (x = t.write ++ tail ↔ zeros = 0)) ∧
    ∀ g, Keygrip.ofCanonical? x = some g →
      ∃ t zeros, Padded t zeros x ∧ Keygrip.ofCanonical? t.write = some g := by
  refine ⟨fun t tail => parse_eq_some_iff, ?_, fun g hg => ?_⟩
  · rintro t tail zeros spelling h rfl
    refine ⟨h.length_eq, h.spells_iff, ?_⟩
    rw [List.append_cancel_right_eq]
    exact h.eq_write_iff
  · obtain ⟨t, hparse, -⟩ := Keygrip.ofCanonical?_eq_some_iff.mp hg
    obtain ⟨zeros, spelling, h, hx⟩ := parse_eq_some_iff.mp hparse
    rw [List.append_nil] at hx
    subst hx
    exact ⟨t, zeros, h, (Keygrip.ofCanonical?_padded h).symm.trans hg⟩

/-- Zeros in front of a length, one of them of an atom that is empty itself. -/
theorem accepted_up_to_zeros_nested :
    let t : Sexp := list [atom (ofText "a"), list [atom []]]
    Padded t 3 (ofText "(001:a(00:))") ∧
      parse (ofText "(001:a(00:))" ++ ofText ")") = some (t, ofText ")") ∧
      (ofText "(001:a(00:))").length = t.write.length + 3 ∧
      ¬Spells t (ofText "(001:a(00:))") := by
  intro t
  have hempty : PaddedItems [atom []] (1 + 0) (ofText "00:" ++ []) := .cons (.atom [] 1) .nil
  have hinner : PaddedItems [list [atom []]] (1 + 0 + 0) (ofText "(00:)" ++ []) :=
    .cons (.list hempty) .nil
  have hitems : PaddedItems [atom (ofText "a"), list [atom []]] (2 + (1 + 0 + 0))
      (ofText "001:a" ++ (ofText "(00:)" ++ [])) := .cons (.atom (ofText "a") 2) hinner
  have h : Padded t 3 (ofText "(001:a(00:))") := .list hitems
  obtain ⟨hparse, hspelling, -⟩ := accepted_up_to_zeros (ofText "(001:a(00:))" ++ ofText ")")
  obtain ⟨hlength, hcanonical, -⟩ := hspelling t (ofText ")") 3 _ h rfl
  exact ⟨h, (hparse t (ofText ")")).mpr ⟨3, _, h, rfl⟩, hlength, fun hs => by
    cases hcanonical.mp hs⟩

/-- A key with the modulus `abc`. -/
def abcKey : Sexp :=
  list [atom (ofText "public-key"),
    list [atom (ofText "rsa"), list [atom (ofText "n"), atom (ofText "abc")]]]

/-- The key with a zero in front of the length of a name. -/
def abcKeyPadded : Octets := ofText "(10:public-key(3:rsa(01:n3:abc)))"

/-- Not only canonical spellings are accepted, neither by the reader nor for a keygrip. -/
theorem leading_zero_accepted :
    parse abcKeyPadded = some (abcKey, []) ∧ abcKeyPadded ≠ abcKey.write ++ [] ∧
      (∀ t, ¬Spells t abcKeyPadded) ∧ Keygrip.ofCanonical? abcKeyPadded ≠ none := by
  have hmodulus : PaddedItems [list [atom (ofText "n"), atom (ofText "abc")]] 1
      (ofText "(01:n3:abc)") :=
    .cons (.list (.cons (.atom (ofText "n") 1) (paddedItems_writeItems [atom (ofText "abc")]))) .nil
  have hkey : PaddedItems
      [list [atom (ofText "rsa"), list [atom (ofText "n"), atom (ofText "abc")]]] 1
      (ofText "(3:rsa(01:n3:abc))") :=
    .cons (.list (.cons (.atom (ofText "rsa") 0) hmodulus)) .nil
  have h : Padded abcKey 1 abcKeyPadded := .list (.cons (.atom (ofText "public-key") 0) hkey)
  have hparse : parse abcKeyPadded = some (abcKey, []) := by
    simpa using h.parse_append []
  have hkeygrip : Keygrip.ofSexp? abcKey = some (Keygrip.ofModulus (ofText "abc")) := rfl
  have hwrite : abcKeyPadded ≠ abcKey.write := mt h.eq_write_iff.mp Nat.one_ne_zero
  refine ⟨hparse, by rwa [List.append_nil], fun t hspells => ?_, ?_⟩
  · -- A canonical spelling is read back, so it would be the one of the same expression.
    have hread := parse_write t []
    rw [List.append_nil, ← hspells.eq_write, hparse] at hread
    cases hread
    exact hwrite hspells.eq_write
  · rw [Keygrip.ofCanonical?_of_parse hparse, hkeygrip]
    exact Option.some_ne_none _

end Sexp

end SmartCard
