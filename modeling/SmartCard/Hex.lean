import SmartCard.Octets
import SmartCard.Text.Quoted

/-!
# Hexadecimal text

Octets are written with two digits each. Reading takes digits of either case, refuses an odd
length before it looks at any digit, and counts positions in octets of the UTF-8 text.
-/
namespace SmartCard.Hex

inductive Case | upper | lower deriving DecidableEq, Repr

def digit : Case → Nat → Char
  | _, 0 => '0' | _, 1 => '1' | _, 2 => '2' | _, 3 => '3' | _, 4 => '4'
  | _, 5 => '5' | _, 6 => '6' | _, 7 => '7' | _, 8 => '8' | _, 9 => '9'
  | .upper, 10 => 'A' | .upper, 11 => 'B' | .upper, 12 => 'C'
  | .upper, 13 => 'D' | .upper, 14 => 'E' | .upper, _ => 'F'
  | .lower, 10 => 'a' | .lower, 11 => 'b' | .lower, 12 => 'c'
  | .lower, 13 => 'd' | .lower, 14 => 'e' | .lower, _ => 'f'

def digits (c : Case) (o : Octets) : List Char :=
  o.flatMap fun b => [digit c (b.toNat / 16), digit c (b.toNat % 16)]

def encode (c : Case) (o : Octets) : String := String.ofList (digits c o)

abbrev upper : Octets → String := encode .upper
abbrev lower : Octets → String := encode .lower

def digitValue? (c : Char) : Option Nat :=
  if '0' ≤ c ∧ c ≤ '9' then some (c.toNat - 48)
  else if 'A' ≤ c ∧ c ≤ 'F' then some (c.toNat - 55)
  else if 'a' ≤ c ∧ c ≤ 'f' then some (c.toNat - 87)
  else none

inductive Error
  | oddLength
  /-- The octet of the text that is no digit, taken as a character, and its position. -/
  | invalidCharacter (c : Char) (index : Nat)
  deriving DecidableEq, Repr

def Error.message : Error → String
  | .oddLength => "Odd number of digits"
  | .invalidCharacter c i => s!"Invalid character {Text.quotedChar c} at position {i}"

/-- The first octet of the UTF-8 form of a character, as the character of that number. -/
def leadOctet (c : Char) : Char :=
  match String.utf8EncodeChar c with
  | b :: _ => Char.ofNat b.toNat
  | [] => c

/-- Reads pairs of digits; `index` octets of the text stand before them. -/
def decodeFrom (index : Nat) : List Char → Except Error Octets
  | [] => .ok []
  | [a] => .error (.invalidCharacter (leadOctet a) index)
  | a :: b :: rest =>
    match digitValue? a, digitValue? b with
    | none, _ => .error (.invalidCharacter (leadOctet a) index)
    | some _, none => .error (.invalidCharacter (leadOctet b) (index + 1))
    | some h, some l => (decodeFrom (index + 2) rest).map (UInt8.ofNat (16 * h + l) :: ·)

def utf8Length : List Char → Nat
  | [] => 0
  | c :: cs => c.utf8Size + utf8Length cs

def decode (s : String) : Except Error Octets :=
  if utf8Length s.toList % 2 = 1 then .error .oddLength else decodeFrom 0 s.toList

end SmartCard.Hex
