import SmartCard.Action
import SmartCard.Failure
import SmartCard.HashAlgorithm
import SmartCard.Hex
import SmartCard.Log
import SmartCard.Path

/-!
# The journal of sessions

A session writes down each call that it makes, with the fault that the call answered if any, each
certificate that it hands to its parser, each prompt that it shows, and its log. The driver adds
its notes, which are events of a device and lines of its own log.
-/
namespace SmartCard

/-- Calls of a session to its driver, and to the application that is bound on the card. -/
inductive Call
  | establish (application : String) (debug : Bool)
  | detect (reader : Nat)
  | connect (reader : Nat)
  | lock
  | unlock
  | disconnect
  | release
  | select (path : Path)
  | read (offset length : Nat)
  | bind
  | privateKeys
  | certificate (id : Octets)
  | pinLabel (id : Octets)
  | verifyPin (id : Octets) (pin : String)
  | sign (id : Octets) (hash : HashAlgorithm) (digest : Octets)
  | decipher (id : Octets) (data : Octets)
  | unbind
  deriving DecidableEq, Repr

/-- What a driver writes down while it works on a call. -/
inductive Note (ε : Type)
  | event (e : ε)
  | log (l : Log)
  deriving DecidableEq, Repr

inductive Entry (ε : Type)
  | call (c : Call) (fault : Option Fault)
  | parse (certificate : Octets)
  | prompt (text : String) (failure : Option Failure)
  | note (n : Note ε)
  deriving DecidableEq, Repr

namespace Call

def line : Call → String
  | establish application debug => s!"establish {application} debug={debug}"
  | detect reader => s!"detect {reader}"
  | connect reader => s!"connect {reader}"
  | lock => "lock"
  | unlock => "unlock"
  | disconnect => "disconnect"
  | release => "release"
  | select path => s!"select {path.text}"
  | read offset length => s!"read {offset} {length}"
  | bind => "bind_application"
  | privateKeys => "app.private_keys"
  | certificate id => s!"app.certificate {Hex.upper id}"
  | pinLabel id => s!"app.pin_label {Hex.upper id}"
  | verifyPin id pin => s!"app.verify_pin {Hex.upper id} {pin}"
  | sign id hash digest =>
    s!"app.compute_signature {Hex.upper id} {hash.name} {Hex.upper digest}"
  | decipher id data => s!"app.decipher {Hex.upper id} {Hex.upper data}"
  | unbind => "app.unbind"

end Call

namespace Entry

variable {ε : Type}

def ofLog (l : Log) : Entry ε := note (.log l)

def log? : Entry ε → Option Log
  | note (.log l) => some l
  | _ => none

def event? : Entry ε → Option ε
  | note (.event e) => some e
  | _ => none

def call? : Entry ε → Option Call
  | call c _ => some c
  | _ => none

end Entry

/-- What a driver does on a call, and whether it fails. -/
abbrev Reply (ω ε α : Type) := Action ω (Note ε) (Except Fault α)

variable {ω ε α : Type}

/-- The fault of an answer, if it is one. -/
def faultOf : Except Fault α → Option Fault
  | .ok _ => none
  | .error f => some f

/-- Writes down a call, then lets the driver work on it. -/
def Call.make (c : Call) (r : Reply ω ε α) : Action ω (Entry ε) (Except Fault α) := fun w =>
  let o := r w
  ⟨o.value, o.world, .call c (faultOf o.value) :: o.entries.map .note⟩

/-- Writes down a call that cannot fail. -/
def Call.makeSure (c : Call) (r : Action ω (Note ε) Unit) : Action ω (Entry ε) Unit := fun w =>
  let o := r w
  ⟨(), o.world, .call c none :: o.entries.map .note⟩

end SmartCard
