import SmartCard.Octets

/-!
# Canonical S-expressions

An atom is its length in decimal digits, a colon and its octets; a list is its items between
parentheses. Reading takes lengths with leading zeros too.
-/
namespace SmartCard

inductive Sexp
  | atom (octets : Octets)
  | list (items : List Sexp)
  deriving Repr

namespace Sexp

def isDigit (b : UInt8) : Bool := 0x30 ≤ b && b ≤ 0x39

/-- The number that decimal digits write. -/
def decimal (digits : Octets) : Nat := digits.foldl (fun n d => 10 * n + (d.toNat - 0x30)) 0

/-- Reads the length, the colon and the octets of an atom. -/
def parseAtom (buf : Octets) : Option (Octets × Octets) :=
  match buf.dropWhile isDigit with
  | 0x3A :: body => Octets.split? (decimal (buf.takeWhile isDigit)) body
  | _ => none

mutual

/-- Reads one expression; `fuel` bounds the reading steps. -/
def parseWithin : (fuel : Nat) → Octets → Option (Sexp × Octets)
  | 0, _ => none
  | _ + 1, [] => none
  | fuel + 1, b :: rest =>
    if b = 0x28 then (itemsWithin fuel rest).map fun (items, tail) => (list items, tail)
    else if isDigit b then (parseAtom (b :: rest)).map fun (octets, tail) => (atom octets, tail)
    else none

/-- Reads the items of a list up to its closing parenthesis. -/
def itemsWithin : (fuel : Nat) → Octets → Option (List Sexp × Octets)
  | 0, _ => none
  | fuel + 1, buf =>
    match buf with
    | 0x29 :: tail => some ([], tail)
    | buf =>
      (parseWithin fuel buf).bind fun (item, tail) =>
        (itemsWithin fuel tail).map fun (items, tail) => (item :: items, tail)

end

/-- Reads one expression from the start of the octets, and gives what stands behind it. -/
def parse (buf : Octets) : Option (Sexp × Octets) := parseWithin (2 * buf.length + 1) buf

def writeAtom (octets : Octets) : Octets :=
  Octets.ofText (toString octets.length) ++ 0x3A :: octets

mutual

def write : Sexp → Octets
  | atom octets => writeAtom octets
  | list items => 0x28 :: writeItems items ++ [0x29]

def writeItems : List Sexp → Octets
  | [] => []
  | item :: items => write item ++ writeItems items

end

end Sexp

end SmartCard
