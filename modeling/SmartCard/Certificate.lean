import SmartCard.Der
import SmartCard.Keygrip

/-!
# X.509 certificates

Just enough of a certificate is read to reach its public key, but all of it has to be well
formed. Octets behind the certificate are left alone, and signatures are not verified. Only RSA
keys are rendered.
-/
namespace SmartCard

/-! ## Points in time -/

namespace Certificate.Time

/-- Decimal digits, after a sign if one of these characters stands first. -/
def number? (signs : List Char) : List Char → Option Int
  | c :: r =>
    if signs.contains c ∧ r ≠ [] ∧ r.all Char.isDigit then
      some (if c = '-' then -digits r else digits r)
    else if c.isDigit ∧ r.all Char.isDigit then some (digits (c :: r))
    else none
  | [] => none
where
  digits (cs : List Char) : Int :=
    cs.foldl (fun n c => 10 * n + ((c.toNat : Int) - 48)) 0

def isLeapYear (year : Int) : Bool := year % 4 = 0 && (year % 100 ≠ 0 || year % 400 = 0)

def daysIn (year month : Int) : Int :=
  if month = 2 then if isLeapYear year then 29 else 28
  else if month = 4 ∨ month = 6 ∨ month = 9 ∨ month = 11 then 30
  else 31

def isMoment (year month day hour minute second : Int) : Bool :=
  1 ≤ month && month ≤ 12 && 1 ≤ day && day ≤ daysIn year month && 0 ≤ hour && hour < 24 &&
    0 ≤ minute && minute < 60 && 0 ≤ second && second < 60

/-- Month, day, hour, minute and second in two characters each, then a `Z`. -/
def isRest (year : Int) : List Char → Bool
  | [o₁, o₂, d₁, d₂, h₁, h₂, m₁, m₂, s₁, s₂, 'Z'] =>
    match number? ['+'] [o₁, o₂], number? ['+'] [d₁, d₂], number? ['+'] [h₁, h₂],
      number? ['+'] [m₁, m₂], number? ['+'] [s₁, s₂] with
    | some month, some day, some hour, some minute, some second =>
      isMoment year month day hour minute second
    | _, _, _, _, _ => false
  | _ => false

/-- Years of two digits run from 1950 to 2049. -/
def isUtc (cs : List Char) : Bool :=
  match number? ['+', '-'] (cs.take 2) with
  | some year => isRest (if 50 ≤ year then year + 1900 else year + 2000) (cs.drop 2)
  | none => false

def isGeneralized (cs : List Char) : Bool :=
  match number? ['+', '-'] (cs.take 4) with
  | some year => isRest year (cs.drop 4)
  | none => false

def characters (o : Octets) : List Char := o.map fun b => Char.ofNat b.toNat

end Certificate.Time

/-! ## Structure -/

/-- An object identifier with the octets of any values behind it. -/
structure Certificate.Identified where
  identifier : Octets
  values : Octets
  deriving DecidableEq, Repr

/-- The parts of a certificate that matter for its keygrip. -/
structure Certificate where
  keyAlgorithm : Certificate.Identified
  keyOctets : Octets
  deriving DecidableEq, Repr

namespace Certificate

open Der Der.Reader

def identified : Reader Identified := do
  let identifier ← value 0x06
  check (isObjectIdentifier identifier)
  let values ← remaining
  check (isSeries values)
  return ⟨identifier, values⟩

def algorithm : Reader Identified := Der.Reader.sequence identified

/-- A sequence of sets of attributes. -/
def name : Reader Unit :=
  Der.Reader.sequence (series 0x31 (accepts (series 0x30 (accepts identified))))

def time : Reader Unit := do
  match ← optional 0x17 with
  | some utc => check (Time.isUtc (Time.characters utc))
  | none => check (Time.isGeneralized (Time.characters (← value 0x18)))

def validity : Reader Unit := Der.Reader.sequence (do time; time)

def bitString : Reader Octets := do
  match bits? (← value 0x03) with
  | some o => return o
  | none => failure

/-- Algorithm and octets of the public key. -/
def keyInfo : Reader (Identified × Octets) :=
  Der.Reader.sequence (do return (← algorithm, ← bitString))

def version : Reader Unit := do
  match ← optional 0xA0 with
  | some o => within o (do
      let v ← value 0x02
      check (v = [0] || v = [1] || v = [2]))
  | none => return

def uniqueId (identifier : UInt8) : Reader Unit := do
  match ← optional identifier with
  | some o => within o (do let _ ← bitString)
  | none => return

def criticality : Reader Unit := do
  match ← optional 0x01 with
  | some b => check (isBoolean b)
  | none => return

def extension : Reader Unit := do
  check (isObjectIdentifier (← value 0x06))
  criticality
  let _ ← value 0x04

def extensions : Reader Unit := do
  match ← optional 0xA3 with
  | some o => within o (Der.Reader.sequence (series 0x30 (accepts extension)))
  | none => return

def toBeSigned : Reader Certificate := Der.Reader.sequence do
  version
  check (isInteger (← value 0x02))
  let _ ← algorithm
  name
  validity
  name
  let (keyAlgorithm, keyOctets) ← keyInfo
  uniqueId 0xA1
  uniqueId 0xA2
  extensions
  return ⟨keyAlgorithm, keyOctets⟩

def certificate : Reader Certificate := Der.Reader.sequence do
  let c ← toBeSigned
  let _ ← algorithm
  let _ ← bitString
  return c

/-- Reads a certificate from the front of octets. -/
def read? (o : Octets) : Option Certificate := (certificate o).map (·.1)

/-- The object identifier 1.2.840.113549.1.1.1. -/
def rsaEncryption : Octets := [0x2A, 0x86, 0x48, 0x86, 0xF7, 0x0D, 0x01, 0x01, 0x01]

/-- RSA has no parameters, which may be said by a null. -/
def Identified.isRsa (a : Identified) : Bool :=
  a.identifier = rsaEncryption && (a.values.isEmpty || a.values = null)

end Certificate

/-! ## RSA keys -/

/-- Modulus and public exponent, without sign octets. -/
structure RsaKey where
  modulus : Octets
  exponent : Octets
  deriving DecidableEq, Repr

namespace RsaKey

open Der Der.Reader

/-- Exactly two numbers in a sequence, with nothing behind it. -/
def read? (o : Octets) : Option RsaKey :=
  match Der.Reader.sequence (do return (← value 0x02, ← value 0x02)) o with
  | some ((n, e), []) => do return ⟨← unsigned? n, ← unsigned? e⟩
  | _ => none

/-- A number with a zero octet in front if its high bit is set. -/
def padded (n : Octets) : Octets :=
  match n with
  | b :: _ => if 0x80 ≤ b then 0 :: n else n
  | [] => n

def sexp (k : RsaKey) : Sexp :=
  .list [.atom (Octets.ofText "public-key"),
    .list [.atom (Octets.ofText "rsa"),
      .list [.atom (Octets.ofText "n"), .atom (padded k.modulus)],
      .list [.atom (Octets.ofText "e"), .atom (padded k.exponent)]]]

/-- The key as a canonical S-expression. -/
def canonical (k : RsaKey) : Octets := k.sexp.write

end RsaKey

/-- The RSA key of a certificate as a canonical S-expression. -/
def Certificate.publicKey : CertificateParser := fun o => do
  let c ← Certificate.read? o
  guard c.keyAlgorithm.isRsa
  return (← RsaKey.read? c.keyOctets).canonical

end SmartCard
