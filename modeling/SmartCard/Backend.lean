import SmartCard.Dinsig
import SmartCard.Pkcs15

/-!
# Backends

The card is used through its application directory if one can be bound, and through the fixed
layout otherwise. A failure to bind other than a missing directory is only worth a warning.
-/
namespace SmartCard

inductive Backend (Application : Type)
  | pkcs15 (a : Application)
  | dinsig
  deriving DecidableEq, Repr

namespace Backend

variable {ω ε Context Connection Application : Type}
  (S : Stack ω ε Context Connection Application)

def name : Backend Application → String
  | pkcs15 _ => "PKCS#15"
  | dinsig => "DINSIG"

/-- Lines about a failure to bind. -/
def bindLogs (reader : Nat) (f : Fault) : List Log :=
  if f.code = .applicationNotFound then []
  else [⟨.warn, s!"binding of existing PKCS-15 failed in reader {reader}: {f.message}; " ++
    "using the fallback backend"⟩]

/-- Binds what the card offers; this always ends with a backend. -/
def bind (k : Connection) (reader : Nat) : Action ω (Entry ε) (Backend Application) := do
  match ← Call.bind.make (S.bind k) with
  | .ok a => return pkcs15 a
  | .error f =>
    Action.writeAll ((bindLogs reader f).map .ofLog)
    return dinsig

/-- Gives back the application of a bound backend. -/
def unbind : Option (Backend Application) → Action ω (Entry ε) Unit
  | some (pkcs15 a) => Call.unbind.makeSure (S.unbind a)
  | _ => return

/-- The serial number of the bound application, empty if it reports none. -/
def applicationSerial (w : ω) : Backend Application → Option String
  | pkcs15 a => some ((S.serialNumber w a).getD "")
  | dinsig => none

def keypair (parser : CertificateParser) (k : Connection) (index : Nat) :
    Backend Application → Task ω ε (Option Keypair)
  | pkcs15 a => Pkcs15.keypair S parser a index
  | dinsig => Dinsig.keypair S parser k index

def readCertificate (k : Connection) (id : String) : Backend Application → Task ω ε Octets
  | pkcs15 a => Pkcs15.readCertificate S a id
  | dinsig => Dinsig.readCertificate S k id

def sign (keyId : String) (hash : HashAlgorithm) (ask : PinCallback) (digest : Octets) :
    Backend Application → Task ω ε Octets
  | pkcs15 a => Pkcs15.sign S a keyId hash ask digest
  | dinsig => throw .unsupportedOperation

def decipher (keyId : String) (ask : PinCallback) (data : Octets) :
    Backend Application → Task ω ε Octets
  | pkcs15 a => Pkcs15.decipher S a keyId ask data
  | dinsig => throw .unsupportedOperation

end Backend

end SmartCard
