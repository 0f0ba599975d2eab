import SmartCard.Pcsc.Stack

/-!
# A bench for single calls

A bench has place for one context and one connection, on which calls are tried one at a time. A
new one takes the place of the one before, which goes without being given back.
-/
namespace SmartCard.Pcsc

structure Bench where
  context : Option Context
  connection : Option Connection

namespace Bench

inductive Step
  | establish (application : String) (traced : Bool)
  | readerCount
  | detect (reader : Nat)
  | connect (reader : Nat)
  | release
  | driverName
  | lock
  | unlock
  | disconnect
  | select (path : String)
  | read (offset length : Nat)
  | transmit (command : Octets)
  | bind

inductive Result
  | done
  /-- There is no context or connection to call. -/
  | noObject
  | count (n : Nat)
  | present (b : Bool)
  | name (s : String)
  | file (info : FileInfo)
  | octets (o : Octets)

def empty : Bench := ⟨none, none⟩

abbrev Trial := Action Manager (Note Event) (Except Fault Result × Bench)

/-- A call whose value is shown as a result, and that leaves the bench as it is. -/
def asking {α : Type} (b : Bench) (f : α → Result) (w : Work (Except Error α)) : Trial := do
  return ((← w.reply).map f, b)

def onContext (b : Bench) (f : Context → Trial) : Trial :=
  match b.context with
  | some c => f c
  | none => return (.ok .noObject, b)

def onConnection (b : Bench) (f : Connection → Trial) : Trial :=
  match b.connection with
  | some k => f k
  | none => return (.ok .noObject, b)

def discardContext (b : Bench) : Work Unit :=
  match b.context with
  | some c => c.discard
  | none => return

def discardConnection (b : Bench) : Work Unit :=
  match b.connection with
  | some k => k.discard
  | none => return

def establish (b : Bench) (application : String) (traced : Bool) : Trial := do
  match ← (Context.establish application traced).reply with
  | .error f => return (.error f, b)
  | .ok c =>
    b.discardContext
    return (.ok .done, { b with context := some c })

def connect (b : Bench) (c : Context) (reader : Nat) : Trial := do
  match ← (c.connect reader).reply with
  | .error f => return (.error f, b)
  | .ok k =>
    b.discardConnection
    return (.ok .done, { b with connection := some k })

def step (b : Bench) : Step → Trial
  | .establish application traced => b.establish application traced
  | .readerCount => b.onContext fun c => return (.ok (.count c.readerCount), b)
  | .detect reader => b.onContext fun c => b.asking .present (c.detect reader)
  | .connect reader => b.onContext fun c => b.connect c reader
  | .release => b.onContext fun c => do
    return (.ok .done, { b with context := some (← c.release) })
  | .driverName => b.onConnection fun _ => return (.ok (.name Pcsc.driverName), b)
  | .lock => b.onConnection fun k => b.asking (fun _ => .done) k.lock
  | .unlock => b.onConnection fun k => do
    k.unlock
    return (.ok .done, b)
  | .disconnect => b.onConnection fun k => do
    return (.ok .done, { b with connection := some (← k.disconnect) })
  | .select path => b.onConnection fun k =>
    match Path.parse path with
    | .error f => return (.error f, b)
    | .ok p => b.asking .file (k.select p)
  | .read offset length => b.onConnection fun k => b.asking .octets (k.read offset length)
  | .transmit command => b.onConnection fun k => b.asking .octets (k.transmit command)
  | .bind => b.onConnection fun _ => return (.error Connection.noDirectory, b)

structure Report where
  result : Except Fault Result
  notes : List (Note Event)

def play (b : Bench) (m : Manager) : List Step → List Report
  | [] => []
  | s :: steps =>
    let o := b.step s m
    ⟨o.value.1, o.entries⟩ :: play o.value.2 o.world steps

end Bench

end SmartCard.Pcsc
