import SmartCard.Failure
import SmartCard.Hex

/-!
# Names of application objects

An object of the application directory goes by its identifier in digits behind a fixed text.
-/
namespace SmartCard.ObjectId

def lead : String := "P15-5015."

def format (id : Octets) : String := lead ++ Hex.upper id

/-- Digits of either case are read; the identifier must not be empty. -/
def parse (s : String) : Except Failure Octets :=
  if lead.toList.isPrefixOf s.toList then
    match s.toList.drop lead.length with
    | [] => .error .invalidValue
    | digits => (Hex.decode (String.ofList digits)).mapError fun _ => .invalidValue
  else .error .invalidValue

end SmartCard.ObjectId
