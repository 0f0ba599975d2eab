import SmartCard.Fault
import SmartCard.Hex

/-!
# Paths of files on the card

A path is the sequence of two-octet file identifiers that lead to a file, written as hexadecimal
digits without separators.
-/
namespace SmartCard

structure FileId where
  high : UInt8
  low : UInt8
  deriving DecidableEq, Repr

structure Path where
  ids : List FileId
  deriving DecidableEq, Repr

namespace FileId

def octets (i : FileId) : Octets := [i.high, i.low]

/-- The identifier of the master file. -/
def master : FileId := ⟨0x3F, 0x00⟩

end FileId

namespace Path

def octets (p : Path) : Octets := p.ids.flatMap FileId.octets

def text (p : Path) : String := Hex.upper p.octets

inductive Error
  | notHex (e : Hex.Error)
  | notIdentifiers
  deriving DecidableEq, Repr

def Error.reason : Error → String
  | .notHex e => e.message
  | .notIdentifiers => "not a sequence of file identifiers"

/-- The identifiers that octets spell out, two octets each. -/
def identifiers? : Octets → Option (List FileId)
  | [] => some []
  | [_] => none
  | a :: b :: r => (identifiers? r).map (⟨a, b⟩ :: ·)

def read (s : String) : Except Error Path :=
  match Hex.decode s with
  | .error e => .error (.notHex e)
  | .ok o =>
    match identifiers? o with
    | some (i :: r) => .ok ⟨i :: r⟩
    | _ => .error .notIdentifiers

def fault (s : String) (e : Error) : Fault :=
  ⟨.invalidArguments, s!"Invalid path {Text.quoted s}: {e.reason}"⟩

def parse (s : String) : Except Fault Path := (read s).mapError (fault s)

end Path

end SmartCard
