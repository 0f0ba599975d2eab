import SmartCard.Keygrip

/-! # Keypairs on the card -/
namespace SmartCard

structure Keypair where
  keygrip : Keygrip
  /-- The name that the backend gave the key. -/
  keyId : Option String
  deriving DecidableEq

namespace Keypair

/-! ## As JSON -/

def escaped (c : Char) : List Char :=
  if c = '"' then ['\\', '"']
  else if c = '\\' then ['\\', '\\']
  else if c = '\x08' then ['\\', 'b']
  else if c = '\x0c' then ['\\', 'f']
  else if c = '\n' then ['\\', 'n']
  else if c = '\r' then ['\\', 'r']
  else if c = '\t' then ['\\', 't']
  else if c < ' ' then
    ['\\', 'u', '0', '0', Hex.digit .lower (c.toNat / 16), Hex.digit .lower (c.toNat % 16)]
  else [c]

def jsonString (s : String) : String :=
  String.ofList ('"' :: s.toList.flatMap escaped ++ ['"'])

def json (k : Keypair) : String :=
  "  \x7b\n    \"keygrip\": " ++ jsonString k.keygrip.text ++ ",\n    \"key_id\": " ++
    (match k.keyId with | some s => jsonString s | none => "null") ++ "\n  \x7d"

/-- An array with one object for each keypair, each level two blanks further to the right. -/
def jsonList (ks : List Keypair) : String :=
  if ks.isEmpty then "[]"
  else "[\n" ++ String.intercalate ",\n" (ks.map json) ++ "\n]"

end Keypair

end SmartCard
