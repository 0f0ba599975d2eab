import SmartCard.Keypair
import SmartCard.ObjectId
import SmartCard.Stack

/-!
# Cards with an application directory

A key and its certificate share their identifier. Keys sign digests of SHA-1 and RIPEMD-160 only,
and each use of a key verifies the PIN first.
-/
namespace SmartCard.Pkcs15

variable {ω ε Context Connection Application : Type}
  (S : Stack ω ε Context Connection Application)

def defaultPrompt : String := "PIN"

/-- The certificate with the identifier, if there is one. -/
def certificate (a : Application) (id : Octets) : Task ω ε (Option Octets) :=
  Task.callOr "failed to read the certificate" .ofFault (.certificate id) (S.certificate a id)

/-- The keypair of the private key at the index; `none` past the last key. -/
def keypair (parser : CertificateParser) (a : Application) (index : Nat) :
    Task ω ε (Option Keypair) := do
  let keys ← Task.callOr "private keys enumeration failed" .ofFault .privateKeys (S.privateKeys a)
  match keys[index]? with
  | none => return none
  | some id =>
    match ← certificate S a id with
    | none =>
      Task.log .debug s!"no certificate for private key {Hex.upper id}"
      throw .missingCertificate
    | some c =>
      let k ← Task.keygripOr
        s!"can't calculate the keygrip of certificate {ObjectId.format id}" parser c
      return some ⟨k, some (ObjectId.format id)⟩

def readCertificate (a : Application) (certId : String) : Task ω ε Octets := do
  let id ← (ObjectId.parse certId : Except Failure Octets)
  match ← certificate S a id with
  | some c => return c
  | none => Task.refuse s!"certificate {certId} not found" .cardError

/-- Asks for the PIN of a key and has the card verify it. -/
def verifyPin (a : Application) (id : Octets) (ask : PinCallback) : Task ω ε Unit := do
  let label ← Task.callOr "failed to find the PIN object" .ofFault (.pinLabel id) (S.pinLabel a id)
  let pin ← Task.prompt ask (label.getD defaultPrompt)
  Task.callOr "PIN verification failed" (fun _ => .badPin) (.verifyPin id pin)
    (S.verifyPin a id pin)

def signs (hash : HashAlgorithm) : Bool := hash = .sha1 || hash = .rmd160

def sign (a : Application) (keyId : String) (hash : HashAlgorithm) (ask : PinCallback)
    (digest : Octets) : Task ω ε Octets := do
  let id ← (ObjectId.parse keyId : Except Failure Octets)
  Task.require (signs hash) (throw .unsupportedAlgorithm)
  Task.require (digest.length = hash.digestLength)
    (Task.refuse (s!"digest of {digest.length} bytes does not match {hash.name} " ++
      s!"({hash.digestLength} bytes)") .invalidValue)
  verifyPin S a id ask
  Task.callOr "failed to create signature" .ofFault (.sign id hash digest) (S.sign a id hash digest)

def decipher (a : Application) (keyId : String) (ask : PinCallback) (data : Octets) :
    Task ω ε Octets := do
  let id ← (ObjectId.parse keyId : Except Failure Octets)
  verifyPin S a id ask
  Task.callOr "failed to decipher the data" .ofFault (.decipher id data) (S.decipher a id data)

end SmartCard.Pkcs15
