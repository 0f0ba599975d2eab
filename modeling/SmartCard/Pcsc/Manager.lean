import SmartCard.Hex
import SmartCard.Pcsc.Script

/-!
# The resource manager

The manager answers from its script. An empty queue answers success, or the status `6F00`. The
manager also counts the objects that hold each context.
-/
namespace SmartCard.Pcsc

inductive ShareMode | shared | exclusive deriving DecidableEq, Repr

/-- What happens to a card that is disconnected. -/
inductive Disposition | leave | reset deriving DecidableEq, Repr

/-- Calls that reach the manager. -/
inductive Event
  | establish
  | status (reader : Nat)
  | connect (reader : Nat)
  | reconnect (mode : ShareMode)
  | transmit (command : Octets)
  | disconnect (disposition : Disposition)
  | release
  deriving DecidableEq, Repr

namespace Event

def line : Event → String
  | establish => "establish scope=0"
  | status reader => s!"status {reader} timeout=0"
  | connect reader => s!"connect {reader} shared protocols=3"
  | reconnect .exclusive => "reconnect exclusive protocols=3 init=0"
  | reconnect .shared => "reconnect shared protocols=3 init=0"
  | transmit command => s!"tx {Hex.upper command}"
  | disconnect .leave => "disconnect disposition=0"
  | disconnect .reset => "disconnect disposition=1"
  | release => "release"

end Event

structure Manager extends Script where
  /-- The number of contexts made so far. -/
  contexts : Nat
  /-- One entry for each object that holds a context. -/
  holders : List Nat

/-- A manager at the start of its script. -/
def Script.start (s : Script) : Manager := ⟨s, 0, []⟩

namespace Manager

/-- Longer responses do not fit the buffer of a command. -/
def bufferSize : Nat := 264

/-- The response of a manager with nothing left to say. -/
def exhausted : Octets := [0x6F, 0x00]

def respond (m : Manager) : Except ReturnCode Octets × Manager :=
  match m.responses with
  | [] => (.ok exhausted, m)
  | r :: rs =>
    let m := { m with responses := rs }
    match r with
    | .ok o => if bufferSize < o.length then (.error .insufficientBuffer, m) else (.ok o, m)
    | .error c => (.error c, m)

def reconnect (m : Manager) : Option ReturnCode × Manager :=
  match m.reconnects with
  | [] => (none, m)
  | c :: cs => (c, { m with reconnects := cs })

/-- Readers are known by name, so the first of several with one name stands for all. -/
def indexOf (m : Manager) (name : String) : Nat := m.readers.findIdx fun r => r.name = name

def readerNamed? (m : Manager) (name : String) : Option Reader :=
  m.readers.find? fun r => r.name = name

/-- The names of the readers; a manager without any has nothing to list. The names are written one
behind the other, and an empty one is where they end. -/
def names (m : Manager) : Except ReturnCode (List String) :=
  match m.list with
  | some c => .error c
  | none =>
    if m.readers.isEmpty then .error .noReadersAvailable
    else .ok ((m.readers.map (·.name)).takeWhile (· ≠ ""))

def hold (context : Nat) (m : Manager) : Manager := { m with holders := context :: m.holders }

def letGo (context : Nat) (m : Manager) : Manager :=
  { m with holders := m.holders.erase context }

end Manager

end SmartCard.Pcsc
