import SmartCard.File
import SmartCard.Task

/-!
# Driver stacks

A driver stack lends contexts, connections and applications; a session never talks to a reader
directly. All that the stack remembers, and the cards themselves, are its world `ω`. Its calls
may do anything to that world and answer anything; the journal shows what was asked of it.
-/
namespace SmartCard

/-- The calls of a driver stack with handles for contexts, connections and applications. -/
structure Stack (ω ε Context Connection Application : Type) where
  establish (application : String) (debug : Bool) : Reply ω ε Context
  readerCount : ω → Context → Nat
  detect (c : Context) (reader : Nat) : Reply ω ε Bool
  connect (c : Context) (reader : Nat) : Reply ω ε Connection
  release (c : Context) : Action ω (Note ε) Unit
  driverName : Connection → String
  /-- Takes the card for exclusive access. -/
  lock (k : Connection) : Reply ω ε Unit
  unlock (k : Connection) : Action ω (Note ε) Unit
  disconnect (k : Connection) : Action ω (Note ε) Unit
  select (k : Connection) (path : Path) : Reply ω ε FileInfo
  /-- Reads at most `length` octets of the selected file from `offset` on. -/
  read (k : Connection) (offset length : Nat) : Reply ω ε Octets
  /-- Binds the application directory of the card, if it has one. -/
  bind (k : Connection) : Reply ω ε Application
  /-- The serial number in the token information. -/
  serialNumber : ω → Application → Option String
  /-- The identifiers of the private keys. -/
  privateKeys (a : Application) : Reply ω ε (List Octets)
  certificate (a : Application) (id : Octets) : Reply ω ε (Option Octets)
  /-- The label of the PIN that protects a key. -/
  pinLabel (a : Application) (id : Octets) : Reply ω ε (Option String)
  verifyPin (a : Application) (id : Octets) (pin : String) : Reply ω ε Unit
  sign (a : Application) (id : Octets) (hash : HashAlgorithm) (digest : Octets) : Reply ω ε Octets
  decipher (a : Application) (id : Octets) (data : Octets) : Reply ω ε Octets
  unbind (a : Application) : Action ω (Note ε) Unit

end SmartCard
