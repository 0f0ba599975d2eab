import Mathlib.Data.Nat.Digits.Lemmas
import SmartCard.Der

/-!
# Values and their octets

A value has one written form: its identifier, its length in as few octets as possible, and its
content. Reading takes no other form of a value whose identifier is one octet, and reads each value
back whose length can be said in four octets.
-/
namespace SmartCard

/-! ## Numbers in octets -/

namespace Octets

/-- A number, most significant octet first and without zeros in front. -/
def ofNumber (n : Nat) : Octets := ((Nat.digits 256 n).map UInt8.ofNat).reverse

theorem length_ofNumber_le_iff {n k : Nat} : (ofNumber n).length ≤ k ↔ n < 256 ^ k := by
  rw [ofNumber, List.length_reverse, List.length_map]
  exact Nat.digits_length_le_iff (by decide) n

theorem bigEndian_eq_ofDigits (o : Octets) :
    bigEndian o = Nat.ofDigits 256 (o.reverse.map UInt8.toNat) := by
  rw [Nat.ofDigits_eq_foldr, List.map_reverse, List.foldr_reverse, List.foldl_map, bigEndian]
  congr 1
  funext n b
  exact Nat.add_comm _ _

theorem bigEndian_ofNumber (n : Nat) : bigEndian (ofNumber n) = n := by
  have hdigits : (Nat.digits 256 n).map (UInt8.toNat ∘ UInt8.ofNat) = Nat.digits 256 n := by
    rw [List.map_congr_left (g := id), List.map_id]
    exact fun d hd => UInt8.toNat_ofNat_of_lt' (Nat.digits_lt_base (by decide) hd)
  rw [bigEndian_eq_ofDigits, ofNumber, List.reverse_reverse, List.map_map, hdigits,
    Nat.ofDigits_digits]

theorem ofNumber_bigEndian {o : Octets} (h : o.head? ≠ some 0) : ofNumber (bigEndian o) = o := by
  have hsmall : ∀ d ∈ o.reverse.map UInt8.toNat, d < 256 := by
    intro d hd
    obtain ⟨b, -, rfl⟩ := List.mem_map.mp hd
    exact b.toNat_lt
  have hlast : ∀ hne : o.reverse.map UInt8.toNat ≠ [],
      (o.reverse.map UInt8.toNat).getLast hne ≠ 0 := by
    intro hne hzero
    rw [List.getLast_map, List.getLast_reverse] at hzero
    refine h ?_
    rw [List.head?_eq_some_head (by simpa using hne)]
    exact congrArg some (UInt8.toNat_inj.mp hzero)
  have hmap : (o.reverse.map UInt8.toNat).map UInt8.ofNat = o.reverse := by
    rw [List.map_map, List.map_congr_left (g := id), List.map_id]
    exact fun b _ => UInt8.ofNat_toNat
  rw [ofNumber, bigEndian_eq_ofDigits, Nat.digits_ofDigits 256 (by decide) _ hsmall hlast, hmap,
    List.reverse_reverse]

theorem head?_ofNumber (n : Nat) : (ofNumber n).head? ≠ some 0 := by
  intro h
  rw [ofNumber, List.head?_reverse, List.getLast?_map] at h
  obtain ⟨d, hd, hzero⟩ := Option.map_eq_some_iff.mp h
  have hsmall : d < 256 := Nat.digits_lt_base (by decide) (List.mem_of_getLast? hd)
  have hd0 : d = 0 := by
    rw [← UInt8.toNat_ofNat_of_lt' hsmall, hzero]
    rfl
  have hn : n ≠ 0 := by
    rintro rfl
    cases hd
  rw [List.getLast?_eq_some_getLast (Nat.digits_ne_nil_iff_ne_zero.mpr hn), hd0] at hd
  exact Nat.getLast_digit_ne_zero 256 hn (Option.some.inj hd)

end Octets

namespace Der

/-! ## Written forms -/

/-- The octets of a length: itself if it is short, and otherwise their number and its octets. -/
def writeLength (n : Nat) : Octets :=
  if n < 0x80 then [UInt8.ofNat n]
  else UInt8.ofNat (0x80 + (Octets.ofNumber n).length) :: Octets.ofNumber n

/-- A value whose identifier is one octet. -/
def write (identifier : UInt8) (content : Octets) : Octets :=
  identifier :: (writeLength content.length ++ content)

theorem length_writeLength_le_iff {n : Nat} : (writeLength n).length ≤ 5 ↔ n < 256 ^ 4 := by
  rw [← Octets.length_ofNumber_le_iff, writeLength]
  split
  next hn =>
    have hshort : (Octets.ofNumber n).length ≤ 4 := Octets.length_ofNumber_le_iff.mpr (by omega)
    simp [hshort]
  next => rw [List.length_cons, Nat.succ_le_succ_iff]

/-! ## Reading -/

theorem longLength?_eq_some_iff {n k : Nat} {o rest : Octets} :
    longLength? k o = some (.definite n, rest) ↔
      o = Octets.ofNumber n ++ rest ∧ (Octets.ofNumber n).length = k ∧ 0x80 ≤ n := by
  rw [longLength?]
  constructor
  · intro h
    cases hs : Octets.split? k o with
    | none => simp [hs] at h
    | some p =>
      obtain ⟨front, rest'⟩ := p
      obtain ⟨rfl, rfl⟩ := Octets.split?_eq_some_iff.mp hs
      rw [hs] at h
      dsimp only at h
      split_ifs at h with hlong
      cases h
      rw [Octets.ofNumber_bigEndian hlong.2]
      exact ⟨rfl, rfl, hlong.1⟩
  · rintro ⟨rfl, rfl, hn⟩
    rw [Octets.split?_eq_some_iff.mpr ⟨rfl, rfl⟩]
    dsimp only
    rw [Octets.bigEndian_ofNumber, if_pos ⟨hn, Octets.head?_ofNumber n⟩]

/-- Up to four octets of a length are announced by their number. -/
theorem length?_long {k : Nat} (hmin : 1 ≤ k) (hmax : k ≤ 4) (o : Octets) :
    length? (UInt8.ofNat (0x80 + k) :: o) = longLength? k o := by
  have hb : (UInt8.ofNat (0x80 + k)).toNat = 0x80 + k :=
    UInt8.toNat_ofNat_of_lt' (show 0x80 + k < 256 by omega)
  have hlow : ¬ UInt8.ofNat (0x80 + k) < 0x80 := by
    rw [UInt8.lt_iff_toNat_lt, hb]
    exact Nat.not_lt.mpr (Nat.le_add_right 0x80 k)
  have hne : UInt8.ofNat (0x80 + k) ≠ 0x80 := by
    intro he
    rw [he] at hb
    change 0x80 = 0x80 + k at hb
    omega
  have hhigh : UInt8.ofNat (0x80 + k) ≤ 0x84 := by
    rw [UInt8.le_iff_toNat_le, hb]
    exact Nat.add_le_add_left hmax 0x80
  rw [length?, if_neg hlow, if_neg hne, if_pos hhigh, hb, Nat.add_sub_cancel_left]

theorem length?_eq_some_iff {n : Nat} {o rest : Octets} :
    length? o = some (.definite n, rest) ↔ o = writeLength n ++ rest ∧ n < 256 ^ 4 := by
  constructor
  · intro h
    cases o with
    | nil => cases h
    | cons b o =>
      rw [length?] at h
      split_ifs at h with hshort hindefinite hlong
      · cases h
        have hb : b.toNat < 0x80 := UInt8.lt_iff_toNat_lt.mp hshort
        rw [writeLength, if_pos hb, UInt8.ofNat_toNat]
        exact ⟨rfl, by omega⟩
      · cases h
      · obtain ⟨rfl, hlength, hn⟩ := longLength?_eq_some_iff.mp h
        have hlow : 0x80 ≤ b.toNat := UInt8.le_iff_toNat_le.mp (UInt8.not_lt.mp hshort)
        have hhigh : b.toNat ≤ 0x84 := UInt8.le_iff_toNat_le.mp hlong
        have hb : 0x80 + (Octets.ofNumber n).length = b.toNat := by omega
        rw [writeLength, if_neg (by omega), hb, UInt8.ofNat_toNat]
        exact ⟨rfl, Octets.length_ofNumber_le_iff.mp (by omega)⟩
  · rintro ⟨rfl, hn⟩
    rw [writeLength]
    split
    next hshort =>
      have hb : (UInt8.ofNat n).toNat = n :=
        UInt8.toNat_ofNat_of_lt' (Nat.lt_trans hshort (by decide))
      have hlow : UInt8.ofNat n < 0x80 := by
        rw [UInt8.lt_iff_toNat_lt, hb]
        exact hshort
      rw [List.singleton_append, length?, if_pos hlow, hb]
    next hlong =>
      have hmax : (Octets.ofNumber n).length ≤ 4 := Octets.length_ofNumber_le_iff.mpr hn
      have hmin : ¬ (Octets.ofNumber n).length ≤ 0 := fun h => by
        have hzero := Octets.length_ofNumber_le_iff.mp h
        omega
      rw [List.cons_append, length?_long (by omega) hmax]
      exact longLength?_eq_some_iff.mpr ⟨rfl, rfl, by omega⟩

theorem longIdentifier?_ne_nil {n : Nat} {o more rest : Octets}
    (h : longIdentifier? n o = some (more, rest)) : more ≠ [] := by
  cases n with
  | zero => cases h
  | succ n =>
    cases o with
    | nil => cases h
    | cons b o =>
      rw [longIdentifier?] at h
      split_ifs at h
      · cases h
        exact List.cons_ne_nil _ _
      · obtain ⟨p, -, hp⟩ := Option.map_eq_some_iff.mp h
        cases hp
        exact List.cons_ne_nil _ _

/-- An identifier of one octet, which announces no further ones. -/
theorem identifier?_eq_some_iff {b : UInt8} {o rest : Octets} :
    identifier? o = some ([b], rest) ↔ o = b :: rest ∧ b &&& 0x1F ≠ 0x1F := by
  cases o with
  | nil => simp [identifier?]
  | cons c o =>
    rw [identifier?]
    split_ifs with hc
    · constructor
      · intro h
        obtain ⟨⟨more, rest'⟩, hmore, hp⟩ := Option.map_eq_some_iff.mp h
        have hnil : more = [] := (List.cons.inj (Prod.mk.inj hp).1).2
        exact absurd hnil (longIdentifier?_ne_nil hmore)
      · rintro ⟨he, hb⟩
        exact absurd ((List.cons.inj he).1 ▸ hc) hb
    · constructor
      · intro h
        cases h
        exact ⟨rfl, hc⟩
      · rintro ⟨he, -⟩
        cases he
        rfl

theorem header?_eq_some_iff {h : Header} {o rest : Octets} :
    header? o = some (h, rest) ↔
      ∃ o', identifier? o = some (h.identifier, o') ∧ length? o' = some (h.length, rest) := by
  obtain ⟨identifier, length⟩ := h
  simp only [header?, Option.bind_eq_bind, Option.bind_eq_some_iff, Prod.exists]
  constructor
  · rintro ⟨identifier, o', hid, length, rest', hlength, h⟩
    cases h
    exact ⟨o', hid, hlength⟩
  · rintro ⟨o', hid, hlength⟩
    exact ⟨identifier, o', hid, length, rest, hlength, rfl⟩

/-- Reading finds exactly the written form, if its length can be said in four octets. -/
theorem next?_eq_some_iff {b : UInt8} {o content rest : Octets} :
    next? o = some (⟨[b], content⟩, rest) ↔
      o = write b content ++ rest ∧ content.length < 256 ^ 4 ∧ b &&& 0x1F ≠ 0x1F := by
  constructor
  · intro h
    rw [next?] at h
    split at h
    next identifier n o' hheader =>
      obtain ⟨⟨content', rest'⟩, hsplit, he⟩ := Option.map_eq_some_iff.mp h
      cases he
      obtain ⟨o'', hid, hlength⟩ := header?_eq_some_iff.mp hheader
      obtain ⟨rfl, hb⟩ := identifier?_eq_some_iff.mp hid
      obtain ⟨rfl, hshort⟩ := length?_eq_some_iff.mp hlength
      obtain ⟨rfl, rfl⟩ := Octets.split?_eq_some_iff.mp hsplit
      exact ⟨by simp [write], hshort, hb⟩
    next => cases h
  · rintro ⟨rfl, hshort, hb⟩
    have hlength := length?_eq_some_iff.mpr
      ⟨(rfl : writeLength content.length ++ (content ++ rest) = _), hshort⟩
    have hheader : header? (write b content ++ rest) =
        some (⟨[b], .definite content.length⟩, content ++ rest) := by
      refine header?_eq_some_iff.mpr ⟨_, identifier?_eq_some_iff.mpr ⟨?_, hb⟩, hlength⟩
      rw [write, List.cons_append, List.append_assoc]
    rw [next?, hheader]
    dsimp only
    rw [Octets.split?_eq_some_iff.mpr ⟨rfl, rfl⟩]
    rfl

/-- A written form is short only if what it writes is. -/
theorem length_lt_of_write_eq {b b' : UInt8} {content content' : Octets}
    (h : write b content = write b' content') (hshort : content.length < 256 ^ 4) :
    content'.length < 256 ^ 4 := by
  have hlength := congrArg List.length h
  simp only [write, List.length_cons, List.length_append] at hlength
  have hwritten := length_writeLength_le_iff.mpr hshort
  by_contra hlong
  have hwritten' := mt length_writeLength_le_iff.mp hlong
  omega

end Der

end SmartCard
