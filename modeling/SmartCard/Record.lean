import SmartCard.Operation

/-!
# The record of a session

A session is kept as a record of eight fields. Its handles may be missing, and flags of its own tell
whether the card is locked and whether a backend was bound. Each method looks at the fields that it
needs, and what it has changed stays changed if it fails later on.
-/
namespace SmartCard.Session

structure Record (Context Connection Application : Type) where
  options : Options
  context : Option Context
  connection : Option Connection
  locked : Bool
  initialized : Bool
  backend : Option (Backend Application)
  parser : CertificateParser
  serial : Option String

/-- A method fails or answers with a value, and leaves the record changed in either case. -/
abbrev Method (ω ε Context Connection Application α : Type) :=
  ExceptT Failure (StateT (Record Context Connection Application) (Action ω (Entry ε))) α

variable {ω ε Context Connection Application α β : Type}

namespace Method

/-- Calls the method of a record. -/
def on (m : Method ω ε Context Connection Application α)
    (r : Record Context Connection Application) :
    Action ω (Entry ε) (Except Failure α × Record Context Connection Application) := m.run.run r

/-- Work that does not touch the record. -/
def work (t : Task ω ε α) : Method ω ε Context Connection Application α :=
  ExceptT.mk (StateT.lift t.run)

/-- A field that must be there. -/
def field (f : Record Context Connection Application → Option α) (missing : Failure) :
    Method ω ε Context Connection Application α := do
  match f (← get) with
  | some a => return a
  | none => throw missing

/-- Logs the result of an operation. -/
def reported (operation : String) (m : Method ω ε Context Connection Application α) :
    Method ω ε Context Connection Application α := ExceptT.mk fun r => do
  let (v, r) ← m.on r
  Action.writeAll ((resultLogs r.options.verbose operation v).map .ofLog)
  return (v, r)

/-! ### What methods do -/

variable (r : Record Context Connection Application) (w : ω)

@[simp] theorem on_pure (a : α) :
    (pure a : Method ω ε Context Connection Application α).on r w = ⟨(.ok a, r), w, []⟩ := rfl

@[simp] theorem on_throw (f : Failure) :
    (throw f : Method ω ε Context Connection Application α).on r w = ⟨(.error f, r), w, []⟩ := rfl

@[simp] theorem on_get :
    (get : Method ω ε Context Connection Application _).on r w = ⟨(.ok r, r), w, []⟩ := rfl

@[simp] theorem on_modify
    (f : Record Context Connection Application → Record Context Connection Application) :
    (modify f : Method ω ε Context Connection Application Unit).on r w =
      ⟨(.ok (), f r), w, []⟩ := rfl

@[simp] theorem on_work (t : Task ω ε α) :
    (work t : Method ω ε Context Connection Application α).on r w =
      ⟨((t.run w).value, r), (t.run w).world, (t.run w).entries⟩ := by
  simp [work, on]

theorem on_bind (m : Method ω ε Context Connection Application α)
    (g : α → Method ω ε Context Connection Application β) :
    (m >>= g).on r w =
      match (m.on r w).value with
      | (.ok a, r') =>
        let o := (g a).on r' (m.on r w).world
        ⟨o.value, o.world, (m.on r w).entries ++ o.entries⟩
      | (.error f, r') => ⟨(.error f, r'), (m.on r w).world, (m.on r w).entries⟩ := by
  rcases h : m.on r w with ⟨⟨v, r'⟩, w', es⟩
  have hrun : m.run.run r w = ⟨(v, r'), w', es⟩ := h
  cases v <;> simp [on, ExceptT.run_bind, StateT.run_bind, hrun]

@[simp] theorem on_map (f : α → β) (m : Method ω ε Context Connection Application α) :
    (f <$> m).on r w =
      let o := m.on r w
      ⟨(o.value.1.map f, o.value.2), o.world, o.entries⟩ := by
  rw [map_eq_pure_bind, on_bind]
  rcases m.on r w with ⟨⟨v, r'⟩, w', es⟩
  cases v <;> simp [Except.map]

theorem on_reported (operation : String) (m : Method ω ε Context Connection Application α) :
    (reported operation m).on r w =
      let o := m.on r w
      ⟨o.value, o.world,
        o.entries ++ (resultLogs o.value.2.options.verbose operation o.value.1).map .ofLog⟩ := by
  change ((m.on r >>= _ : Action ω (Entry ε) _) w) = _
  simp

theorem on_field (f : Record Context Connection Application → Option α) (missing : Failure) :
    (field f missing : Method ω ε Context Connection Application α).on r w =
      match f r with
      | some a => ⟨(.ok a, r), w, []⟩
      | none => ⟨(.error missing, r), w, []⟩ := by
  cases h : f r <;> simp [field, on_bind, h]

end Method

namespace Record

open Method

variable (S : Stack ω ε Context Connection Application)

/-! ## Opening and closing -/

def connect : Method ω ε Context Connection Application Unit := do
  let o := (← get).options
  let c ← field (·.context) .cardError
  let count ← work (Task.ofAction (Action.look fun w => S.readerCount w c))
  work (Task.require (o.reader < count) (Task.refuse "no card reader available" .cardError))
  let present ← work
    (Task.call (.detect o.reader) (S.detect c o.reader) fun _ => throw .cardNotPresent)
  work (Task.require present (throw .cardNotPresent))
  let k ← work (Task.callOr s!"failed to connect card in reader {o.reader}" .ofFault
    (.connect o.reader) (S.connect c o.reader))
  work (Task.logAll (connectedLogs o (S.driverName k)))
  modify fun r => { r with connection := some k }
  work (Task.callOr s!"can't lock card in reader {o.reader}" .ofFault .lock (S.lock k))
  modify fun r => { r with locked := true }

/-- Gives back what the record holds, in reverse order. -/
def release (r : Record Context Connection Application) :
    Action ω (Entry ε) (Record Context Connection Application) := do
  Backend.unbind S r.backend
  if let some k := r.connection then
    if r.locked then Call.unlock.makeSure (S.unlock k)
    Call.disconnect.makeSure (S.disconnect k)
  if let some c := r.context then Call.release.makeSure (S.release c)
  return { r with
    backend := none
    connection := none
    context := none
    locked := r.locked && r.connection.isNone }

/-- A record that cannot be connected is released. -/
def start (parser : CertificateParser) (o : Options) :
    Task ω ε (Record Context Connection Application) := do
  let c ← Task.callOr "failed to establish SC context" .ofFault
    (.establish o.appName o.debugTransport) (S.establish o.appName o.debugTransport)
  let (v, r) ← Task.ofAction ((connect S).on ⟨o, some c, none, false, false, none, parser, none⟩)
  match v with
  | .ok () => return r
  | .error f =>
    let _ ← Task.ofAction (release S r)
    throw f

/-! ## Binding and the serial number -/

def backendName (r : Record Context Connection Application) : Option String :=
  r.backend.map Backend.name

/-- Binds the backend that matches the card, unless that was done before. -/
def bind : Method ω ε Context Connection Application Unit := do
  let r ← get
  unless r.initialized do
    let k ← field (·.connection) .cardError
    let b ← work (Task.ofAction (Backend.bind S k r.options.reader))
    work (Task.log .debug s!"using the {b.name} backend in reader {r.options.reader}")
    modify fun r => { r with backend := some b }
    modify fun r => { r with initialized := true }

def serialAndStamp : Method ω ε Context Connection Application (String × Nat) := do
  bind S
  let r ← get
  match r.serial with
  | some text => return (text, 0)
  | none =>
    let application ← work (Task.ofAction (Action.look fun w =>
      r.backend.bind fun b => b.applicationSerial S w))
    let k ← field (·.connection) .cardError
    let text ← work (WholeFile.resolveSerial S k application)
    modify fun r => { r with serial := some text }
    return (text, 0)

/-! ## Operations of the bound backend -/

/-- The backend that was bound, and the connection that it works on. -/
def parts : Method ω ε Context Connection Application (Backend Application × Connection) := do
  unless (← get).initialized do throw .notInitialized
  let b ← field (·.backend) .notInitialized
  let k ← field (·.connection) .cardError
  return (b, k)

def keypair (index : Int) : Method ω ε Context Connection Application (Option Keypair) :=
  Method.reported "enum_keypairs" do
    work (Task.require (0 ≤ index) (throw .invalidIndex))
    let (b, k) ← parts
    work (b.keypair S (← get).parser k index.toNat)

def readCertificate (id : String) : Method ω ε Context Connection Application Octets :=
  Method.reported "read_cert" do
    let (b, k) ← parts
    work (b.readCertificate S k id)

def sign (keyId : String) (hash : HashAlgorithm) (ask : Option PinCallback) (digest : Octets) :
    Method ω ε Context Connection Application Octets :=
  Method.reported "sign" do
    let ask ← work (arguments ask digest)
    let (b, _) ← parts
    work (b.sign S keyId hash ask digest)

def decipher (keyId : String) (ask : Option PinCallback) (data : Octets) :
    Method ω ε Context Connection Application Octets :=
  Method.reported "decipher" do
    let ask ← work (arguments ask data)
    let (b, _) ← parts
    work (b.decipher S keyId ask data)

/-! ## Sequences of operations -/

def perform : Operation → Method ω ε Context Connection Application Answer
  | .bind => do
    bind S
    return .bound
  | .serial => do
    let (text, stamp) ← serialAndStamp S
    return .serial text stamp
  | .keypair index => .keypair <$> keypair S index
  | .certificate id => .octets <$> readCertificate S id
  | .sign keyId hash ask digest => .octets <$> sign S keyId hash ask digest
  | .decipher keyId ask data => .octets <$> decipher S keyId ask data

def performAll (r : Record Context Connection Application) :
    List Operation → Action ω (Entry ε) (Record Context Connection Application)
  | [] => return r
  | op :: ops => do
    let (_, r) ← (perform S op).on r
    performAll r ops

/-- A whole run on one record, which is released in the end. -/
def run (parser : CertificateParser) (o : Options) (ops : List Operation) :
    Action ω (Entry ε) (Except Failure Unit) := do
  match ← (start S parser o).run with
  | .error f => return .error f
  | .ok r =>
    let r ← performAll S r ops
    let _ ← release S r
    return .ok ()

end Record

end SmartCard.Session
