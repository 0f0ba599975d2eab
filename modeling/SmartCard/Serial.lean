import SmartCard.Failure
import SmartCard.Hex
import SmartCard.Tlv

/-!
# Serial numbers

The serial number of a card is its ICCSN, a record of the GDO file, in upper case digits. A
serial made up from the token information of an application starts with `FF0100`; one read from
the card that starts with `FF` is set apart by `FF0000`.
-/
namespace SmartCard.Serial

def iccsnTag : UInt8 := 0x5A

/-- Some test cards declare 13 octets for a number of 12. -/
def overdeclared : Nat := 13

structure Iccsn where
  octets : Octets
  /-- The number was taken to be one octet shorter than declared. -/
  shortened : Bool
  deriving DecidableEq, Repr

def Iccsn.text (i : Iccsn) : String := Hex.upper i.octets

def ofFound (f : Tlv.Found) : Except Failure Iccsn :=
  if f.rest.length < f.length then
    if f.length = overdeclared ∧ f.rest.length + 1 = f.length then .ok ⟨f.rest, true⟩
    else .error .cardError
  else if f.length = 0 then .error .cardError
  else .ok ⟨f.rest.take f.length, false⟩

/-- The number in the content of the GDO file. -/
def findIccsn (gdo : Octets) : Except Failure Iccsn :=
  match Tlv.find? gdo iccsnTag with
  | none => .error .cardError
  | some f => ofFound f

/-- The number that signature cards carry in place of one of their own. -/
def placeholder : String := "D27600000000000000000000"

def syntheticMark : String := "FF0100"

def organicMark : String := "FF0000"

def startsWithFF (s : String) : Bool :=
  match s.toList with
  | 'F' :: 'F' :: _ => true
  | _ => false

/-- The application's serial is `some` when an application is bound, empty if it has none. -/
def normalize (serial : String) (application : Option String) : String :=
  match application with
  | some a =>
    if serial = placeholder then syntheticMark ++ a
    else if startsWithFF serial then organicMark ++ serial
    else serial
  | none => if startsWithFF serial then organicMark ++ serial else serial

end SmartCard.Serial
