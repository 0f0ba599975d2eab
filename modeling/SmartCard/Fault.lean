/-!
# Faults of the driver stack

Whatever lies between a session and its card reports a fault: a code, and the driver's words for
this very failure.
-/
namespace SmartCard

inductive Fault.Code
  | notSupported
  | applicationNotFound
  | outOfMemory
  | cardNotPresent
  | cardRemoved
  | invalidCard
  | noReaders
  | invalidArguments
  | fileNotFound
  | transmit
  | securityStatusNotSatisfied
  | internal
  /-- A code that only the driver knows. -/
  | other (code : Int)
  deriving DecidableEq, Repr

structure Fault where
  code : Fault.Code
  message : String
  deriving DecidableEq, Repr

end SmartCard
