import SmartCard.Journal
import SmartCard.Keygrip

/-! # Pieces of work of a session -/
namespace SmartCard

/-- A PIN, or why there is none, for the text of a prompt. -/
abbrev PinCallback := String → Except Failure String

/-- A piece of work ends with a failure or a value, and keeps the journal. -/
abbrev Task (ω ε α : Type) := ExceptT Failure (Action ω (Entry ε)) α

variable {ω ε α : Type}

def failureOf : Except Failure α → Option Failure
  | .ok _ => none
  | .error f => some f

namespace Task

/-- An action that cannot fail. -/
def ofAction (x : Action ω (Entry ε) α) : Task ω ε α := ExceptT.lift x

def log (level : Level) (text : String) : Task ω ε Unit :=
  ofAction (Action.write (.ofLog ⟨level, text⟩))

def logAll (ls : List Log) : Task ω ε Unit :=
  ofAction (Action.writeAll (ls.map .ofLog))

/-- Goes on if the condition holds, and works on `otherwise` if not. -/
def require (condition : Bool) (otherwise : Task ω ε Unit) : Task ω ε Unit :=
  if condition then pure () else otherwise

/-- Logs an error and fails. -/
def refuse (text : String) (f : Failure) : Task ω ε α := do
  log .error text
  throw f

/-- Goes on with `onFailure` if the work fails. -/
def recover (t : Task ω ε α) (onFailure : Failure → Task ω ε α) : Task ω ε α :=
  ExceptT.mk do
    match ← t.run with
    | .ok a => return .ok a
    | .error f => (onFailure f).run

/-- Makes a call and goes on with `onFault` if it fails. -/
def call (c : Call) (r : Reply ω ε α) (onFault : Fault → Task ω ε α) : Task ω ε α :=
  ExceptT.mk do
    match ← c.make r with
    | .ok a => return .ok a
    | .error f => (onFault f).run

/-- Makes a call whose fault becomes a failure without a word. -/
def callThrough (c : Call) (r : Reply ω ε α) : Task ω ε α :=
  call c r fun f => throw (.ofFault f)

/-- Makes a call whose fault is logged behind a text and becomes a failure. -/
def callOr (text : String) (failure : Fault → Failure) (c : Call) (r : Reply ω ε α) :
    Task ω ε α :=
  call c r fun f => refuse s!"{text}: {f.message}" (failure f)

/-- Asks the cardholder. -/
def prompt (ask : PinCallback) (text : String) : Task ω ε String := ExceptT.mk do
  Action.write (.prompt text (failureOf (ask text)))
  return ask text

/-- Has a certificate parsed for its keygrip; logs the text if it has none. -/
def keygripOr (text : String) (parser : CertificateParser) (certificate : Octets) :
    Task ω ε Keygrip := do
  ofAction (Action.write (.parse certificate))
  match parser.keygrip certificate with
  | .ok k => return k
  | .error f => refuse text f

/-! ## What pieces of work do -/

variable {β : Type}

@[simp] theorem run_pure (a : α) (w : ω) : (pure a : Task ω ε α).run w = ⟨.ok a, w, []⟩ := rfl

@[simp] theorem run_throw (f : Failure) (w : ω) :
    (throw f : Task ω ε α).run w = ⟨.error f, w, []⟩ := rfl

theorem run_bind (t : Task ω ε α) (g : α → Task ω ε β) (w : ω) :
    (t >>= g).run w =
      match (t.run w).value with
      | .ok a =>
        let o := (g a).run (t.run w).world
        ⟨o.value, o.world, (t.run w).entries ++ o.entries⟩
      | .error f => ⟨.error f, (t.run w).world, (t.run w).entries⟩ := by
  simp only [ExceptT.run_bind, Action.bind_apply]
  split <;> simp [*]

@[simp] theorem run_ofAction (x : Action ω (Entry ε) α) (w : ω) :
    (ofAction x : Task ω ε α).run w = ⟨.ok (x w).value, (x w).world, (x w).entries⟩ := by
  simp [ofAction]

theorem run_recover (t : Task ω ε α) (g : Failure → Task ω ε α) (w : ω) :
    (recover t g).run w =
      match (t.run w).value with
      | .ok a => ⟨.ok a, (t.run w).world, (t.run w).entries⟩
      | .error f =>
        let o := (g f).run (t.run w).world
        ⟨o.value, o.world, (t.run w).entries ++ o.entries⟩ := by
  simp only [recover, ExceptT.run_mk, Action.bind_apply]
  split <;> simp [*]

@[simp] theorem run_log (level : Level) (text : String) (w : ω) :
    (log level text : Task ω ε Unit).run w = ⟨.ok (), w, [.ofLog ⟨level, text⟩]⟩ := rfl

@[simp] theorem run_logAll (ls : List Log) (w : ω) :
    (logAll ls : Task ω ε Unit).run w = ⟨.ok (), w, ls.map .ofLog⟩ := by
  simp [logAll]

theorem run_require (condition : Bool) (t : Task ω ε Unit) (w : ω) :
    (require condition t).run w = if condition then ⟨.ok (), w, []⟩ else t.run w := by
  cases condition <;> rfl

@[simp] theorem run_refuse (text : String) (f : Failure) (w : ω) :
    (refuse text f : Task ω ε α).run w = ⟨.error f, w, [.ofLog ⟨.error, text⟩]⟩ := rfl

theorem run_call (c : Call) (r : Reply ω ε α) (g : Fault → Task ω ε α) (w : ω) :
    (call c r g).run w =
      match (r w).value with
      | .ok a => ⟨.ok a, (r w).world, .call c none :: (r w).entries.map .note⟩
      | .error f =>
        let o := (g f).run (r w).world
        ⟨o.value, o.world, .call c (some f) :: (r w).entries.map .note ++ o.entries⟩ := by
  simp only [call, ExceptT.run_mk, Action.bind_apply, Call.make]
  split <;> simp [*, faultOf]

@[simp] theorem run_prompt (ask : PinCallback) (text : String) (w : ω) :
    (prompt ask text : Task ω ε String).run w =
      ⟨ask text, w, [.prompt text (failureOf (ask text))]⟩ := rfl

end Task

end SmartCard
