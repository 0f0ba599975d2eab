/-! # Log lines -/
namespace SmartCard

inductive Level
  | error
  | warn
  | info
  | debug
  deriving DecidableEq, Repr

structure Log where
  level : Level
  text : String
  deriving DecidableEq, Repr

namespace Level

def name : Level → String
  | error => "ERROR"
  | warn => "WARN"
  | info => "INFO"
  | debug => "DEBUG"

/-- Grows with the detail of the lines. -/
def detail : Level → Nat
  | error => 1
  | warn => 2
  | info => 3
  | debug => 4

end Level

def Log.line (l : Log) : String := l.level.name ++ " " ++ l.text

end SmartCard
