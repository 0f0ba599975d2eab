import SmartCard.Hex

/-!
# Text on a terminal

Characters that a terminal takes for commands are written by their number, so that a text from
outside cannot steer it. Line ends, tabs and the other controls are harmless and stay.
-/
namespace SmartCard.Text

/-- The single controls that start or are a command: bell, backspace, form feed, escape, delete. -/
def isCommand (c : Char) : Bool :=
  c = '\x07' || c = '\x08' || c = '\x0c' || c = '\x1b' || c = '\x7f'

/-- The controls of eight bits. -/
def isWideControl (c : Char) : Bool := 0x80 ≤ c.toNat && c.toNat ≤ 0x9F

def tamed (c : Char) : List Char :=
  if isCommand c then
    ['\\', 'x', Hex.digit .lower (c.toNat / 16), Hex.digit .lower (c.toNat % 16)]
  else if isWideControl c then byNumber c
  else [c]

/-- A text with nothing in it that a terminal obeys. -/
def harmless (s : String) : String := String.ofList (s.toList.flatMap tamed)

end SmartCard.Text
