import SmartCard.Backend
import SmartCard.Options

/-!
# Sessions

An open session holds a context, a connection and the lock on one card, and gives them back in
reverse order when it is closed. Opening one that fails on the way gives back what it had. The
first use of the card binds a backend for the rest of the session.
-/
namespace SmartCard

structure Session (Context Connection Application : Type) where
  options : Options
  parser : CertificateParser
  context : Context
  connection : Connection
  backend : Option (Backend Application)
  serial : Option String

namespace Session

variable {ω ε Context Connection Application : Type}
  (S : Stack ω ε Context Connection Application)

/-! ## Opening and closing -/

/-- The line about a new connection, written on verbose sessions. -/
def connectedLogs (o : Options) (driver : String) : List Log :=
  if o.verbose then
    [⟨.info, s!"connected to card in reader {o.reader} using driver `{driver}'"⟩]
  else []

/-- The connected card in the reader, locked; a card that cannot be locked is disconnected. -/
def lockCard (o : Options) (k : Connection) : Task ω ε Unit := do
  Task.logAll (connectedLogs o (S.driverName k))
  Task.call .lock (S.lock k) fun f => do
    Task.log .error s!"can't lock card in reader {o.reader}: {f.message}"
    Task.ofAction (Call.disconnect.makeSure (S.disconnect k))
    throw (.ofFault f)

def connect (o : Options) (c : Context) : Task ω ε Connection := do
  let count ← Task.ofAction (Action.look fun w => S.readerCount w c)
  Task.require (o.reader < count) (Task.refuse "no card reader available" .cardError)
  let present ← Task.call (.detect o.reader) (S.detect c o.reader) fun _ => throw .cardNotPresent
  Task.require present (throw .cardNotPresent)
  let k ← Task.callOr s!"failed to connect card in reader {o.reader}" .ofFault
    (.connect o.reader) (S.connect c o.reader)
  lockCard S o k
  return k

def start (parser : CertificateParser) (o : Options) :
    Task ω ε (Session Context Connection Application) := do
  let c ← Task.callOr "failed to establish SC context" .ofFault
    (.establish o.appName o.debugTransport) (S.establish o.appName o.debugTransport)
  let k ← Task.recover (connect S o c) fun f => do
    Task.ofAction (Call.release.makeSure (S.release c))
    throw f
  return ⟨o, parser, c, k, none, none⟩

def close (s : Session Context Connection Application) : Action ω (Entry ε) Unit := do
  Backend.unbind S s.backend
  Call.unlock.makeSure (S.unlock s.connection)
  Call.disconnect.makeSure (S.disconnect s.connection)
  Call.release.makeSure (S.release s.context)

/-! ## State -/

def reader (s : Session Context Connection Application) : Nat := s.options.reader

def isInitialized (s : Session Context Connection Application) : Bool := s.backend.isSome

def backendName (s : Session Context Connection Application) : Option String :=
  s.backend.map Backend.name

/-! ## Binding and the serial number -/

/-- Binds the backend that matches the card, unless one is bound. -/
def bind (s : Session Context Connection Application) :
    Action ω (Entry ε) (Backend Application × Session Context Connection Application) := do
  match s.backend with
  | some b => return (b, s)
  | none =>
    let b ← Backend.bind S s.connection s.reader
    Action.write (.ofLog ⟨.debug, s!"using the {b.name} backend in reader {s.reader}"⟩)
    return (b, { s with backend := some b })

/-- The serial number of the card, read on first use, and the time of its last update, which is
not known and always 0. -/
def serialAndStamp (s : Session Context Connection Application) :
    Action ω (Entry ε)
      (Except Failure (String × Nat) × Session Context Connection Application) := do
  let (b, s) ← s.bind S
  match s.serial with
  | some text => return (.ok (text, 0), s)
  | none =>
    let application ← Action.look fun w => b.applicationSerial S w
    match ← (WholeFile.resolveSerial S s.connection application).run with
    | .ok text => return (.ok (text, 0), { s with serial := some text })
    | .error f => return (.error f, s)

/-! ## Operations of the bound backend -/

/-- The line about the result of an operation, written on verbose sessions and else only for
failures. -/
def resultLogs {α : Type} (verbose : Bool) (operation : String) (r : Except Failure α) :
    List Log :=
  let text := s!"card operation {operation} result: {Failure.outcome r}"
  if verbose then [⟨.info, text⟩]
  else if (failureOf r).isSome then [⟨.debug, text⟩]
  else []

/-- Logs the result of an operation. -/
def reported {α : Type} (s : Session Context Connection Application) (operation : String)
    (t : Task ω ε α) : Task ω ε α := ExceptT.mk do
  let r ← t.run
  Action.writeAll ((resultLogs s.options.verbose operation r).map .ofLog)
  return r

theorem run_reported {α : Type} (s : Session Context Connection Application) (operation : String)
    (t : Task ω ε α) (w : ω) :
    (s.reported operation t).run w =
      ⟨(t.run w).value, (t.run w).world, (t.run w).entries ++
        (resultLogs s.options.verbose operation (t.run w).value).map .ofLog⟩ := by
  simp [reported]

def bound (s : Session Context Connection Application) : Task ω ε (Backend Application) :=
  match s.backend with
  | some b => return b
  | none => throw .notInitialized

/-- The keypair at the index, `none` behind the last one. -/
def keypair (s : Session Context Connection Application) (index : Int) :
    Task ω ε (Option Keypair) := s.reported "enum_keypairs" do
  Task.require (0 ≤ index) (throw .invalidIndex)
  let b ← s.bound
  b.keypair S s.parser s.connection index.toNat

def readCertificate (s : Session Context Connection Application) (id : String) :
    Task ω ε Octets := s.reported "read_cert" do
  let b ← s.bound
  b.readCertificate S s.connection id

/-- A PIN callback must be given, and something to work on. -/
def arguments (ask : Option PinCallback) (data : Octets) : Task ω ε PinCallback :=
  match ask with
  | some ask => if data.isEmpty then throw .invalidValue else return ask
  | none => throw .invalidValue

def sign (s : Session Context Connection Application) (keyId : String) (hash : HashAlgorithm)
    (ask : Option PinCallback) (digest : Octets) : Task ω ε Octets := s.reported "sign" do
  let ask ← arguments ask digest
  let b ← s.bound
  b.sign S keyId hash ask digest

def decipher (s : Session Context Connection Application) (keyId : String)
    (ask : Option PinCallback) (data : Octets) : Task ω ε Octets := s.reported "decipher" do
  let ask ← arguments ask data
  let b ← s.bound
  b.decipher S keyId ask data

end Session

end SmartCard
