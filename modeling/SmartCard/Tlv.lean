import SmartCard.Octets

/-!
# Simple TLV records

A record is a tag octet, a length and a value. The length is one octet, or the octet `FF` and
then two octets, most significant first. The search for a tag skips whole records, and does not
ask whether the value of the record that it finds is complete.
-/
namespace SmartCard.Tlv

/-- A header with what follows it; the declared length may exceed that. -/
structure Found where
  rest : Octets
  length : Nat
  deriving DecidableEq, Repr

namespace Found

/-- The value, if it is complete. -/
def value? (f : Found) : Option Octets := (Octets.split? f.length f.rest).map (·.1)

/-- What stands behind the value, if it is complete. -/
def behind? (f : Found) : Option Octets := (Octets.split? f.length f.rest).map (·.2)

theorem length_behind_le {f : Found} {o : Octets} (h : f.behind? = some o) :
    o.length ≤ f.rest.length := by
  obtain ⟨⟨front, rest⟩, hs, rfl⟩ := Option.map_eq_some_iff.mp h
  rw [(Octets.split?_eq_some_iff.mp hs).1, List.length_append]
  exact Nat.le_add_left _ _

end Found

/-- The header of a record, split into its tag and what it announces. -/
def header? : Octets → Option (UInt8 × Found)
  | tag :: length :: rest =>
    if length = 0xFF then
      match rest with
      | high :: low :: rest => some (tag, ⟨rest, Octets.bigEndian [high, low]⟩)
      | _ => none
    else some (tag, ⟨rest, length.toNat⟩)
  | _ => none

theorem length_rest_lt {buffer : Octets} {tag : UInt8} {f : Found}
    (h : header? buffer = some (tag, f)) : f.rest.length < buffer.length := by
  unfold header? at h
  split at h
  · split at h
    · split at h
      · cases h
        simp only [List.length_cons]
        omega
      · cases h
    · cases h
      simp only [List.length_cons]
      omega
  · cases h

/-- The first record with the tag. -/
def find? (buffer : Octets) (tag : UInt8) : Option Found :=
  match _h : header? buffer with
  | none => none
  | some (t, f) =>
    if t = tag then some f
    else
      match _h' : f.behind? with
      | none => none
      | some o => find? o tag
termination_by buffer.length
decreasing_by exact Nat.lt_of_le_of_lt (Found.length_behind_le _h') (length_rest_lt _h)

/-- The two forms of a length. -/
inductive Form | short | extended deriving DecidableEq, Repr

structure Record where
  form : Form
  tag : UInt8
  value : Octets
  deriving DecidableEq, Repr

namespace Record

/-- Which lengths the form of a record can write. -/
def Fits (r : Record) : Prop :=
  match r.form with
  | .short => r.value.length < 0xFF
  | .extended => r.value.length < 0x10000

instance (r : Record) : Decidable r.Fits := by
  unfold Fits; cases r.form <;> infer_instance

def writeHeader (form : Form) (tag : UInt8) (length : Nat) : Octets :=
  match form with
  | .short => [tag, UInt8.ofNat length]
  | .extended => [tag, 0xFF, UInt8.ofNat (length / 256), UInt8.ofNat length]

def write (r : Record) : Octets := writeHeader r.form r.tag r.value.length ++ r.value

end Record

def writeAll (rs : List Record) : Octets := rs.flatMap Record.write

end SmartCard.Tlv
