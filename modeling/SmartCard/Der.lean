import SmartCard.Octets

/-!
# Distinguished encoding

A value is its identifier, its length and its content. Lengths take the fewest octets, at most
five with the one that counts them. Values that nobody looks into may also leave the length of
their content indefinite, and close it by an end mark.
-/
namespace SmartCard.Der

/-! ## Headers -/

/-- The further octets of a long identifier, at most `n`; all but the last have bit 8 set. -/
def longIdentifier? : (n : Nat) → Octets → Option (Octets × Octets)
  | n + 1, b :: rest =>
    if b &&& 0x80 = 0 then some ([b], rest)
    else (longIdentifier? n rest).map fun (more, rest) => (b :: more, rest)
  | _, _ => none

def identifier? : Octets → Option (Octets × Octets)
  | b :: rest =>
    if b &&& 0x1F = 0x1F then (longIdentifier? 3 rest).map fun (more, rest) => (b :: more, rest)
    else some ([b], rest)
  | [] => none

/-- Bit 6 of the identifier tells a value that is made of values. -/
def isConstructed : (identifier : Octets) → Bool
  | b :: _ => b &&& 0x20 != 0
  | [] => false

inductive Length
  | definite (n : Nat)
  | indefinite
  deriving DecidableEq, Repr

/-- A length in `n` octets; it must not fit in fewer, nor in the short form. -/
def longLength? (n : Nat) (o : Octets) : Option (Length × Octets) :=
  match Octets.split? n o with
  | some (front, rest) =>
    let length := Octets.bigEndian front
    if 0x80 ≤ length ∧ front.head? ≠ some 0 then some (.definite length, rest) else none
  | none => none

def length? : Octets → Option (Length × Octets)
  | b :: rest =>
    if b < 0x80 then some (.definite b.toNat, rest)
    else if b = 0x80 then some (.indefinite, rest)
    else if b ≤ 0x84 then longLength? (b.toNat - 0x80) rest
    else none
  | [] => none

structure Header where
  identifier : Octets
  length : Length
  deriving DecidableEq, Repr

def header? (o : Octets) : Option (Header × Octets) := do
  let (identifier, o) ← identifier? o
  let (length, o) ← length? o
  return (⟨identifier, length⟩, o)

/-! ## Values -/

structure Element where
  identifier : Octets
  content : Octets
  deriving DecidableEq, Repr

/-- The first value and what stands behind it. -/
def next? (o : Octets) : Option (Element × Octets) :=
  match header? o with
  | some (⟨identifier, .definite n⟩, o) =>
    (Octets.split? n o).map fun (content, rest) => (⟨identifier, content⟩, rest)
  | _ => none

/-- Splits octets into at most `n` values, with none left over. -/
def elementsWithin : (n : Nat) → Octets → Option (List Element)
  | _, [] => some []
  | 0, _ => none
  | n + 1, o => (next? o).bind fun (e, rest) => (elementsWithin n rest).map (e :: ·)

def elements? (o : Octets) : Option (List Element) := elementsWithin o.length o

/-! ## Values that are passed over -/

/-- The identifier of the end mark, whose length is zero. -/
def endMark : Octets := [0x00]

mutual

/-- What stands behind the first value; `fuel` bounds the reading steps. -/
def skipWithin : (fuel : Nat) → Octets → Option Octets
  | 0, _ => none
  | fuel + 1, o =>
    match header? o with
    | none => none
    | some (⟨identifier, length⟩, o) =>
      if isConstructed identifier then
        match length with
        | .definite n =>
          (Octets.split? n o).bind fun (content, rest) =>
            if isSeriesWithin fuel content then some rest else none
        | .indefinite => skipMarkedWithin fuel o
      else if identifier = endMark then none
      else
        match length with
        | .definite n => (Octets.split? n o).map (·.2)
        | .indefinite => none

/-- What stands behind the values up to an end mark. -/
def skipMarkedWithin : (fuel : Nat) → Octets → Option Octets
  | 0, _ => none
  | fuel + 1, o =>
    match header? o with
    | some (⟨identifier, length⟩, rest) =>
      if identifier = endMark then if length = .definite 0 then some rest else none
      else (skipWithin fuel o).bind (skipMarkedWithin fuel)
    | none => none

/-- Whether octets are made of values. -/
def isSeriesWithin : (fuel : Nat) → Octets → Bool
  | _, [] => true
  | 0, _ => false
  | fuel + 1, o =>
    match skipWithin fuel o with
    | some rest => isSeriesWithin fuel rest
    | none => false

end

/-- Whether octets are made of values that can be passed over. -/
def isSeries (o : Octets) : Bool := isSeriesWithin (o.length + 1) o

/-! ## Reading -/

/-- Reads from the front of octets. -/
abbrev Reader := StateT Octets Option

namespace Reader

/-- The content of the next value, whose identifier must be this octet. -/
def value (identifier : UInt8) : Reader Octets := fun o =>
  match next? o with
  | some (e, rest) => if e.identifier = [identifier] then some (e.content, rest) else none
  | none => none

/-- The content of the next value if it has this identifier. -/
def optional (identifier : UInt8) : Reader (Option Octets) := fun o =>
  match identifier? o with
  | some ([b], _) =>
    if b = identifier then (value identifier o).map fun (c, rest) => (some c, rest)
    else some (none, o)
  | some _ => some (none, o)
  | none => if o.isEmpty then some (none, o) else none

/-- Takes whatever is left. -/
def remaining : Reader Octets := fun o => some (o, [])

/-- Reads from these octets instead, which must be used up. -/
def within {α : Type} (content : Octets) (r : Reader α) : Reader α := fun o =>
  match r content with
  | some (a, []) => some (a, o)
  | _ => none

def check (b : Bool) : Reader Unit := if b then pure () else failure

def sequence {α : Type} (r : Reader α) : Reader α := do within (← value 0x30) r

/-- The values that the octets are made of, each of which has the identifier and passes the test. -/
def series (identifier : UInt8) (test : Octets → Bool) : Reader Unit := do
  let o ← remaining
  match elements? o with
  | some es => check (es.all fun e => e.identifier = [identifier] && test e.content)
  | none => failure

/-- Whether octets are read as a whole. -/
def accepts {α : Type} (r : Reader α) (o : Octets) : Bool :=
  match r o with
  | some (_, []) => true
  | _ => false

end Reader

/-! ## Kinds of content -/

/-- A two's complement number in as few octets as possible. -/
def isInteger : Octets → Bool
  | [] => false
  | [_] => true
  | a :: b :: _ => !(a = 0x00 && b < 0x80) && !(a = 0xFF && 0x80 ≤ b)

/-- The octets of a number that is not negative, without a sign octet. -/
def unsigned? : Octets → Option Octets
  | [] => none
  | [b] => if b < 0x80 then some [b] else none
  | a :: b :: rest =>
    if a = 0x00 then if b < 0x80 then none else some (b :: rest)
    else if a < 0x80 then some (a :: b :: rest) else none

def isObjectIdentifier (o : Octets) : Bool :=
  match o.getLast? with
  | some b => b < 0x80
  | none => false

/-- The octets of a bit string. The first octet of its content counts the unused bits at the end,
all of which are zero. -/
def bits? : Octets → Option Octets
  | unused :: o =>
    match o.getLast? with
    | some b => if unused ≤ 7 ∧ b &&& ((1 <<< unused) - 1) = 0 then some o else none
    | none => if unused = 0 then some o else none
  | [] => none

/-- The whole value without content. -/
def null : Octets := [0x05, 0x00]

def isBoolean (o : Octets) : Bool := o = [0x00] || o = [0xFF]

end SmartCard.Der
