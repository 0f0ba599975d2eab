import SmartCard.Fault

/-! # Failures of sessions and their operations -/
namespace SmartCard

inductive Failure
  | outOfMemory
  | cardNotPresent
  | cardRemoved
  | invalidCard
  /-- The card has no structured application directory. -/
  | noApplication
  | notSupported
  /-- The transport failed, or an object on the card is badly encoded. -/
  | cardError
  | invalidValue
  | invalidIndex
  /-- No backend is bound yet. -/
  | notInitialized
  /-- The bound backend does not offer the operation. -/
  | unsupportedOperation
  /-- The private key has no certificate; enumeration may go on with the next index. -/
  | missingCertificate
  | unsupportedAlgorithm
  | badPin
  deriving DecidableEq, Repr

namespace Failure

def message : Failure → String
  | outOfMemory => "Out of core"
  | cardNotPresent => "Card not present"
  | cardRemoved => "Card removed"
  | invalidCard => "Invalid card"
  | noApplication => "No PKCS15 application"
  | notSupported => "Not supported"
  | cardError => "Card error"
  | invalidValue => "Invalid value"
  | invalidIndex => "Invalid index"
  | notInitialized => "Card not initialized"
  | unsupportedOperation => "Unsupported operation"
  | missingCertificate => "Missing certificate"
  | unsupportedAlgorithm => "Unsupported algorithm"
  | badPin => "Bad PIN"

/-- The one-word name under which the command line reports a failure. -/
def label : Failure → String
  | outOfMemory => "OutOfMemory"
  | cardNotPresent => "CardNotPresent"
  | cardRemoved => "CardRemoved"
  | invalidCard => "InvalidCard"
  | noApplication => "NoApplication"
  | notSupported => "NotSupported"
  | cardError => "CardError"
  | invalidValue => "InvalidValue"
  | invalidIndex => "InvalidIndex"
  | notInitialized => "NotInitialized"
  | unsupportedOperation => "UnsupportedOperation"
  | missingCertificate => "MissingCertificate"
  | unsupportedAlgorithm => "UnsupportedAlgorithm"
  | badPin => "BadPin"

def all : List Failure :=
  [outOfMemory, cardNotPresent, cardRemoved, invalidCard, noApplication, notSupported, cardError,
    invalidValue, invalidIndex, notInitialized, unsupportedOperation, missingCertificate,
    unsupportedAlgorithm, badPin]

theorem mem_all (f : Failure) : f ∈ all := by cases f <;> decide

def ofLabel? (s : String) : Option Failure := all.find? fun f => f.label == s

/-- Codes without a counterpart are card errors. -/
def ofCode : Fault.Code → Failure
  | .notSupported => notSupported
  | .applicationNotFound => noApplication
  | .outOfMemory => outOfMemory
  | .cardNotPresent => cardNotPresent
  | .cardRemoved => cardRemoved
  | .invalidCard => invalidCard
  | _ => cardError

def ofFault (f : Fault) : Failure := ofCode f.code

/-- How the outcome of an operation is called in the log. -/
def outcome {α : Type} : Except Failure α → String
  | .ok _ => "Success"
  | .error f => f.message

end Failure

end SmartCard
