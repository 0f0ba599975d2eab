import SmartCard.File
import SmartCard.Fault
import SmartCard.Octets

/-!
# Simulated cards

A card of the simulator holds files and perhaps an application directory, and may be told to
fail at certain calls.
-/
namespace SmartCard.Simulator

structure File where
  data : Octets
  info : FileInfo
  selectFault : Option Fault
  readFault : Option Fault
  /-- So many reads succeed after a selection before `readFault` is met. -/
  readsBeforeFault : Nat
  /-- No read serves more octets. -/
  maxRead : Nat
  /-- So many octets are added to each read. -/
  overread : Nat

structure Directory where
  serial : Option String
  keys : List Octets
  /-- Certificates by the upper case digits of their identifier. -/
  certificates : List (String × Octets)
  pinLabel : Option String
  /-- Without a PIN nothing is ever verified. -/
  pin : Option String

/-- What a card answers for an application that it does not have. -/
def Directory.empty : Directory := ⟨none, [], [], none, none⟩

/-- The calls at which a card may be told to fail. -/
inductive Point
  | detect
  | connect
  | lock
  | select
  | read
  | bind
  | privateKeys
  | certificate
  | pinLabel
  | verifyPin
  | sign
  | decipher
  deriving DecidableEq, Repr

structure Card where
  present : Bool
  /-- Files by the upper case digits of their path. -/
  files : List (String × File)
  application : Option Directory
  faults : List (Point × Fault)

namespace Card

def fault? (c : Card) (p : Point) : Option Fault := c.faults.lookup p

def directory (c : Card) : Directory := c.application.getD .empty

end Card

end SmartCard.Simulator
