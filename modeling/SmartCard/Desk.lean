import SmartCard.Operation

/-!
# Sessions side by side

A desk has numbered slots for sessions over one driver stack. Between the steps of its sessions
the world may change by itself, as when a card is exchanged.
-/
namespace SmartCard

/-- The open sessions, by ascending slot. -/
abbrev Desk (Context Connection Application : Type) :=
  List (Nat × Session Context Connection Application)

namespace Desk

/-- What may be done in a slot. -/
inductive Step (ω : Type)
  | start (options : Options)
  | close
  | reader
  | perform (operation : Operation)
  /-- The world changes, and the session in the slot does nothing. -/
  | outside (change : ω → ω)

inductive Result
  | done
  | noSession
  | reader (index : Nat)
  | answer (a : Answer)
  deriving DecidableEq

variable {ω ε Context Connection Application : Type}
  (S : Stack ω ε Context Connection Application)

def session? (d : Desk Context Connection Application) (slot : Nat) :
    Option (Session Context Connection Application) := d.lookup slot

def put (slot : Nat) (s : Session Context Connection Application) :
    Desk Context Connection Application → Desk Context Connection Application
  | [] => [(slot, s)]
  | (n, t) :: d =>
    if slot < n then (slot, s) :: (n, t) :: d
    else if slot = n then (slot, s) :: d
    else (n, t) :: put slot s d

def without (slot : Nat) (d : Desk Context Connection Application) :
    Desk Context Connection Application := d.filter fun e => e.1 ≠ slot

/-- Closes the session in a slot, if there is one. -/
def clear (slot : Nat) (d : Desk Context Connection Application) :
    Action ω (Entry ε) (Desk Context Connection Application) := do
  match d.session? slot with
  | some s =>
    s.close S
    return d.without slot
  | none => return d

def step (parser : CertificateParser) (d : Desk Context Connection Application) (slot : Nat) :
    Step ω → Action ω (Entry ε) (Except Failure Result × Desk Context Connection Application)
  | .start o => do
    let d ← d.clear S slot
    match ← (Session.start S parser o).run with
    | .ok s => return (.ok .done, d.put slot s)
    | .error f => return (.error f, d)
  | .close => do
    match d.session? slot with
    | some _ => return (.ok .done, ← d.clear S slot)
    | none => return (.ok .noSession, d)
  | .reader =>
    match d.session? slot with
    | some s => return (.ok (.reader s.reader), d)
    | none => return (.ok .noSession, d)
  | .perform op => do
    match d.session? slot with
    | some s =>
      let (r, s) ← s.perform S op
      return (r.map .answer, d.put slot s)
    | none => return (.ok .noSession, d)
  | .outside change => do
    Action.change change
    return (.ok .done, d)

/-- What a step answered and wrote, and the session in its slot afterwards. -/
structure Report (ε Context Connection Application : Type) where
  result : Except Failure Result
  entries : List (Entry ε)
  session : Option (Session Context Connection Application)

def closeAll : Desk Context Connection Application → Action ω (Entry ε) Unit
  | [] => return
  | (_, s) :: d => do
    s.close S
    closeAll d

/-- The step is an operation that breaks off. -/
def breaksOff (d : Desk Context Connection Application) (slot : Nat) (w : ω) : Step ω → Bool
  | .perform op => (d.session? slot).any fun s => s.breaksOff S op w
  | _ => false

/-- Takes the steps one by one, each in its slot, then closes what is still open. If a step breaks
off there is no report. -/
def play (parser : CertificateParser) (d : Desk Context Connection Application) (w : ω) :
    List (Nat × Step ω) → Option (List (Report ε Context Connection Application) × List (Entry ε))
  | [] => some ([], (closeAll S d w).entries)
  | (slot, st) :: steps =>
    if breaksOff S d slot w st then none
    else
      let o := step S parser d slot st w
      let (r, d) := o.value
      (play parser d o.world steps).map fun (reports, final) =>
        (⟨r, o.entries, d.session? slot⟩ :: reports, final)

end Desk

end SmartCard
