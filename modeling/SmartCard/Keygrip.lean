import SmartCard.Failure
import SmartCard.Hex
import SmartCard.Sexp
import SmartCard.Sha1

/-!
# Keygrips

A keygrip is a fingerprint of a public key that does not depend on the container of the key. For
an RSA key it is the SHA-1 of the octets of the modulus, as the canonical S-expression of the key
writes them: `(10:public-key(3:rsa(1:n3:...)(1:e1:...)))`.
-/
namespace SmartCard

structure Keygrip where
  octets : Octets
  length_octets : octets.length = 20
  deriving DecidableEq

namespace Keygrip

def text (k : Keygrip) : String := Hex.upper k.octets

/-- A keygrip that says what it is. -/
def described (k : Keygrip) : String := "Keygrip(" ++ k.text ++ ")"

def ofOctets? (o : Octets) : Option Keygrip :=
  if h : o.length = 20 then some ⟨o, h⟩ else none

def ofModulus (n : Octets) : Keygrip := ⟨Sha1.digest n, Sha1.length_digest n⟩

/-- The value of a parameter `(1:n...)`. -/
def modulus? : Sexp → Option Octets
  | .list [.atom name, .atom value] => if name = Octets.ofText "n" then some value else none
  | _ => none

/-- The parameters of an RSA key. -/
def rsaParameters? : Sexp → Option (List Sexp)
  | .list [.atom name, .list (.atom algorithm :: parameters)] =>
    if name = Octets.ofText "public-key" ∧ algorithm = Octets.ofText "rsa" then some parameters
    else none
  | _ => none

def ofSexp? (s : Sexp) : Option Keygrip := do
  let parameters ← rsaParameters? s
  let n ← parameters.findSome? modulus?
  return ofModulus n

/-- The keygrip of a key in canonical form; nothing may stand behind the expression. -/
def ofCanonical? (o : Octets) : Option Keygrip :=
  match Sexp.parse o with
  | some (s, []) => ofSexp? s
  | _ => none

end Keygrip

/-- Finds the public key of a certificate, as a canonical S-expression. -/
abbrev CertificateParser := Octets → Option Octets

def CertificateParser.keygrip (parser : CertificateParser) (certificate : Octets) :
    Except Failure Keygrip :=
  match (parser certificate).bind Keygrip.ofCanonical? with
  | some k => .ok k
  | none => .error .cardError

end SmartCard
