import SmartCard.File
import SmartCard.Tlv

/-!
# File control parameters

The response to a selection is a template `62`, with the size of the file in record `80`, or `81`
when there is no `80` at all, and its descriptor in record `82`.
-/
namespace SmartCard.Pcsc.ControlParameters

def value? (o : Octets) (tag : UInt8) : Option Octets := (Tlv.find? o tag).bind Tlv.Found.value?

/-- Sizes of other than one to four octets count as zero. -/
def sizeOf (value : Option Octets) : Nat :=
  match value with
  | some o => if 1 ≤ o.length ∧ o.length ≤ 4 then Octets.bigEndian o else 0
  | none => 0

def size (template : Octets) : Nat :=
  match Tlv.find? template 0x80 with
  | some f => sizeOf f.value?
  | none => sizeOf (value? template 0x81)

/-- Bits 4 to 6 of the descriptor. -/
def fileType (descriptor : UInt8) : FileType :=
  match (descriptor.toNat / 8) % 8 with
  | 0 => .workingEf
  | 1 => .internalEf
  | 7 => .df
  | _ => .unknown

/-- Bits 1 to 3 of the descriptor, of elementary files only. -/
def efStructure (descriptor : UInt8) : EfStructure :=
  match fileType descriptor with
  | .workingEf | .internalEf =>
    match descriptor.toNat % 8 with
    | 1 => .transparent
    | 2 | 3 => .linearFixed
    | 4 | 5 => .linearVariable
    | 6 | 7 => .cyclic
    | _ => .unknown
  | _ => .unknown

def ofTemplate? (template : Octets) : Option FileInfo :=
  match value? template 0x82 with
  | some (d :: _) => some ⟨fileType d, efStructure d, size template⟩
  | _ => none

def ofResponse? (response : Octets) : Option FileInfo :=
  (value? response 0x62).bind ofTemplate?

end SmartCard.Pcsc.ControlParameters
