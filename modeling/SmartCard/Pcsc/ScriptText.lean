import SmartCard.Hex
import SmartCard.Pcsc.Script

/-!
# Scripts of the resource manager as text

Each line is a word and a value. `reader` and `empty` name readers with and without a card,
`response` is what the card sends next and `failure` the code of a command that fails; the other
words give the return codes of calls. Codes are written with eight digits.
-/
namespace SmartCard.Pcsc.Script

def code? (value : String) : Option (Option ReturnCode) :=
  match Hex.decode value with
  | .ok o => if o.length = 4 then some (ReturnCode.ofNumber (Octets.bigEndian o)) else none
  | .error _ => none

def addReader (s : Script) (name : String) (present : Bool) : Script :=
  { s with readers := s.readers ++ [⟨name, present, none, none⟩] }

def addResponse (s : Script) (r : Except ReturnCode Octets) : Script :=
  { s with responses := s.responses ++ [r] }

def addLine (s : Script) (word value : String) : Option Script :=
  match word with
  | "reader" => some (s.addReader value true)
  | "empty" => some (s.addReader value false)
  | "response" => (Hex.decode value).toOption.map fun o => s.addResponse (.ok o)
  | "failure" => (code? value).map fun c => s.addResponse (.error (c.getD .unknownError))
  | "reconnect" => (code? value).map fun c => { s with reconnects := s.reconnects ++ [c] }
  | "establish" => (code? value).map fun c => { s with establish := c }
  | "list" => (code? value).map fun c => { s with list := c }
  | "release" => (code? value).map fun c => { s with release := c }
  | "disconnect" => (code? value).map fun c => { s with disconnect := c }
  | _ => none

/-- A line without a value has the empty one, and an empty line says nothing. -/
def readLine (s : Script) (line : String) : Option Script :=
  let cs := line.toList
  if cs.isEmpty then some s
  else s.addLine (String.ofList (cs.takeWhile (· ≠ ' ')))
    (String.ofList ((cs.dropWhile (· ≠ ' ')).drop 1))

def ofLines? (lines : List String) : Option Script := lines.foldlM readLine quiet

end SmartCard.Pcsc.Script
