/-! # Octet strings -/
namespace SmartCard

abbrev Octets := List UInt8

namespace Octets

/-- The number that octets write, most significant octet first. -/
def bigEndian (o : Octets) : Nat := o.foldl (fun n b => 256 * n + b.toNat) 0

/-- The octets of an ASCII text. -/
def ofText (s : String) : Octets := s.toList.map fun c => UInt8.ofNat c.toNat

/-- The first `n` octets and what stands behind them, if there are so many. -/
def split? (n : Nat) (o : Octets) : Option (Octets × Octets) :=
  let front := o.take n
  if front.length = n then some (front, o.drop n) else none

/-- The last two octets and what stands before them. -/
def splitLastTwo (o : Octets) : Option (Octets × UInt8 × UInt8) :=
  match o.reverse with
  | b :: a :: r => some (r.reverse, a, b)
  | _ => none

@[simp] theorem bigEndian_nil : bigEndian [] = 0 := rfl

theorem split?_eq_some_iff {n : Nat} {o front rest : Octets} :
    split? n o = some (front, rest) ↔ o = front ++ rest ∧ front.length = n := by
  simp only [split?]
  constructor
  · intro h
    split at h
    · rename_i hn
      cases h
      exact ⟨(List.take_append_drop n o).symm, hn⟩
    · cases h
  · rintro ⟨rfl, rfl⟩
    simp

theorem split?_eq_none_iff {n : Nat} {o : Octets} : split? n o = none ↔ o.length < n := by
  simp only [split?, ite_eq_right_iff, reduceCtorEq, imp_false, List.length_take]
  omega

@[simp] theorem splitLastTwo_append (o : Octets) (a b : UInt8) :
    splitLastTwo (o ++ [a, b]) = some (o, a, b) := by simp [splitLastTwo]

end Octets

end SmartCard
