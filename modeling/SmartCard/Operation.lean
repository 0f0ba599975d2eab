import SmartCard.Session

/-! # Operations on an open session, and sequences of them -/
namespace SmartCard

inductive Operation
  | bind
  | serial
  | keypair (index : Int)
  | certificate (id : String)
  | sign (keyId : String) (hash : HashAlgorithm) (ask : Option PinCallback) (digest : Octets)
  | decipher (keyId : String) (ask : Option PinCallback) (data : Octets)

/-- The operation reads the certificate file of a card without an application directory. -/
def Operation.readsFile : Operation → Bool
  | keypair index => index = 0
  | certificate id => id = Dinsig.certId
  | _ => false

inductive Answer
  | bound
  | serial (text : String) (stamp : Nat)
  | keypair (k : Option Keypair)
  | octets (o : Octets)
  deriving DecidableEq

namespace Session

variable {ω ε Context Connection Application : Type}
  (S : Stack ω ε Context Connection Application)

/-- What an operation answers, and the session after it. -/
def perform (s : Session Context Connection Application) :
    Operation →
      Action ω (Entry ε) (Except Failure Answer × Session Context Connection Application)
  | .bind => do
    let (_, s) ← s.bind S
    return (.ok .bound, s)
  | .serial => do
    let (r, s) ← s.serialAndStamp S
    return (r.map fun (text, stamp) => .serial text stamp, s)
  | .keypair index => do return ((← (s.keypair S index).run).map .keypair, s)
  | .certificate id => do return ((← (s.readCertificate S id).run).map .octets, s)
  | .sign keyId hash ask digest => do
    return ((← (s.sign S keyId hash ask digest).run).map .octets, s)
  | .decipher keyId ask data => do
    return ((← (s.decipher S keyId ask data).run).map .octets, s)

/-- The operation breaks off, for want of a buffer for the certificate file. -/
def breaksOff (s : Session Context Connection Application) (op : Operation) (w : ω) : Bool :=
  match s.backend with
  | some .dinsig => op.readsFile && WholeFile.breaksOff S s.connection Dinsig.certPath w
  | _ => false

/-- The session after operations in this order, whatever they answer. -/
def performAll (s : Session Context Connection Application) :
    List Operation → Action ω (Entry ε) (Session Context Connection Application)
  | [] => return s
  | op :: ops => do
    let (_, s) ← s.perform S op
    performAll s ops

/-- A whole run: opens a session, performs the operations, closes it. -/
def run (parser : CertificateParser) (o : Options) (ops : List Operation) :
    Action ω (Entry ε) (Except Failure Unit) := do
  match ← (Session.start S parser o).run with
  | .error f => return .error f
  | .ok s =>
    let s ← s.performAll S ops
    s.close S
    return .ok ()

end Session

end SmartCard
