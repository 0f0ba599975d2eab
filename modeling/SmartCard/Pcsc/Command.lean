import SmartCard.Path

/-! # Commands to the card -/
namespace SmartCard.Pcsc

/-- A command with its header, its data and the number of octets expected back. -/
structure Command where
  cla : UInt8
  ins : UInt8
  p1 : UInt8
  p2 : UInt8
  data : Octets
  le : UInt8
  deriving DecidableEq, Repr

namespace Command

/-- The length of the data takes one octet, and is left out when there is none. -/
def octets (c : Command) : Octets :=
  [c.cla, c.ins, c.p1, c.p2] ++
    (if c.data.isEmpty then [] else UInt8.ofNat c.data.length :: c.data) ++ [c.le]

/-- Selects by path from the master file, and asks for the control parameters. The master file
itself is selected by identifier, and is left out of longer paths. -/
def select (p : Path) : Command :=
  match p.ids with
  | [i] => if i = .master then ⟨0x00, 0xA4, 0x00, 0x04, i.octets, 0⟩ else byPath [i]
  | i :: rest => if i = .master then byPath rest else byPath (i :: rest)
  | [] => byPath []
where
  byPath (ids : List FileId) : Command :=
    ⟨0x00, 0xA4, 0x08, 0x04, ids.flatMap FileId.octets, 0⟩

def readBinary (position : Nat) (le : UInt8) : Command :=
  ⟨0x00, 0xB0, UInt8.ofNat (position / 256), UInt8.ofNat position, [], le⟩

/-- Fetches more of a response. -/
def getResponse (le : UInt8) : Command := ⟨0x00, 0xC0, 0x00, 0x00, [], le⟩

/-- Bit 8 of the first parameter would address a file by its short identifier. -/
def maxPosition : Nat := 0x7FFF

/-- The most octets that one command reads. -/
def maxRead : Nat := 255

end Command

end SmartCard.Pcsc
