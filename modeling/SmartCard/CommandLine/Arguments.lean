import SmartCard.HashAlgorithm

/-!
# Arguments of the command line

Global options may stand before and after the name of the command; what stands later wins, but
neither side may give one twice. After `--` everything is a word. Values are checked as they come,
and whoever asks for help or the version gets it at once, whatever follows.
-/
namespace SmartCard.CommandLine

inductive Command
  | serial
  | keys (json : Bool)
  | readCert (id : String) (output : Option String)
  | sign (keyId digest : String) (hash : HashAlgorithm)
  | decipher (keyId data : String)
  deriving DecidableEq, Repr

structure Arguments where
  reader : Nat
  verbose : Bool
  debugTransport : Bool
  command : Command
  deriving DecidableEq, Repr

/-- What the command line asks for. -/
inductive Request
  | run (a : Arguments)
  | version
  | help
  deriving DecidableEq, Repr

/-! ## Options and commands by name -/

inductive Flag
  | reader
  | verbose
  | debugTransport
  | json
  | output
  | hash
  | version
  | help
  deriving DecidableEq, Repr

inductive Kind
  | serial
  | keys
  | readCert
  | sign
  | decipher
  deriving DecidableEq, Repr

def Flag.takesValue : Flag → Bool
  | reader | output | hash => true
  | _ => false

def Kind.ofName? : String → Option Kind
  | "serial" => some .serial
  | "keys" => some .keys
  | "read-cert" => some .readCert
  | "sign" => some .sign
  | "decipher" => some .decipher
  | _ => none

/-- The number of words that a command takes. -/
def Kind.arity : Kind → Nat
  | serial | keys => 0
  | readCert => 1
  | sign | decipher => 2

/-- Long names, before a command (`none`) or behind it. -/
def Flag.long? (kind : Option Kind) (name : String) : Option Flag :=
  match name, kind with
  | "reader", _ => some reader
  | "verbose", _ => some verbose
  | "debug-transport", _ => some debugTransport
  | "help", _ => some help
  | "version", none => some version
  | "json", some .keys => some json
  | "output", some .readCert => some output
  | "hash", some .sign => some hash
  | _, _ => none

def Flag.short? (kind : Option Kind) (name : Char) : Option Flag :=
  match name, kind with
  | 'r', _ => some reader
  | 'v', _ => some verbose
  | 'h', _ => some help
  | 'V', none => some version
  | 'o', some .readCert => some output
  | _, _ => none

/-! ## Reading -/

/-- What has been read so far. -/
structure State where
  kind : Option Kind := none
  /-- The options given on this side of the command. -/
  seen : List Flag := []
  /-- The option that waits for its value. -/
  pending : Option Flag := none
  /-- Everything from here on is a word. -/
  literal : Bool := false
  words : List String := []
  reader : Nat := 0
  verbose : Bool := false
  debugTransport : Bool := false
  json : Bool := false
  output : Option String := none
  hash : HashAlgorithm := .sha1
  /-- What `help` was asked about. -/
  topics : Option (List String) := none
  /-- The answer is settled; what follows does not matter. -/
  settled : Option Request := none

/-- A number of 64 bits in decimal digits, perhaps behind a plus sign. -/
def number? (s : String) : Option Nat :=
  let digits := match s.toList with
    | '+' :: r => r
    | cs => cs
  if digits ≠ [] ∧ digits.all Char.isDigit then
    let n := digits.foldl (fun n c => 10 * n + (c.toNat - 48)) 0
    if n < 0x10000000000000000 then some n else none
  else none

namespace State

/-- Notes that an option is given, which it may be once. -/
def see (s : State) (f : Flag) : Option State :=
  if s.seen.contains f then none else some { s with seen := f :: s.seen }

def setFlag (s : State) (f : Flag) : Option State := do
  let s ← s.see f
  match f with
  | .verbose => return { s with verbose := true }
  | .debugTransport => return { s with debugTransport := true }
  | .json => return { s with json := true }
  | .version => return { s with settled := some .version }
  | .help => return { s with settled := some .help }
  | _ => none

def setValue (s : State) (f : Flag) (value : String) : Option State := do
  let s ← ({ s with pending := none }).see f
  match f with
  | .reader => return { s with reader := ← number? value }
  | .output => if value.isEmpty then none else return { s with output := some value }
  | .hash =>
    match HashAlgorithm.ofName value with
    | .ok h => return { s with hash := h }
    | .error _ => none
  | _ => none

/-- A long option, with its value behind an equals sign or in the next argument. -/
def long (s : State) (text : List Char) : Option State := do
  let f ← Flag.long? s.kind (String.ofList (text.takeWhile (· ≠ '=')))
  match text.dropWhile (· ≠ '=') with
  | _ :: value => if f.takesValue then s.setValue f (String.ofList value) else none
  | [] => if f.takesValue then return { s with pending := some f } else s.setFlag f

/-- A cluster of short options; the rest of the cluster is the value of one that takes it. -/
def short (s : State) : List Char → Option State
  | [] => some s
  | c :: cs => do
    let f ← Flag.short? s.kind c
    if f.takesValue then
      match cs with
      | [] => return { s with pending := some f }
      | '=' :: value => s.setValue f (String.ofList value)
      | value => s.setValue f (String.ofList value)
    else
      let s ← s.setFlag f
      if s.settled.isSome then some s else short s cs

def word (s : State) (text : String) : Option State :=
  match s.kind with
  | some k => if s.words.length < k.arity then some { s with words := s.words ++ [text] } else none
  | none =>
    if s.literal then none
    else if text = "help" then some { s with topics := some [] }
    else (Kind.ofName? text).map fun k => { s with kind := some k, seen := [] }

/-- Takes an argument that may be an option, a value or a word. -/
def read (s : State) (argument : String) : Option State :=
  match s.pending, argument.toList with
  | some _, '-' :: _ :: _ => none
  | some f, _ => s.setValue f argument
  | none, cs =>
    if s.literal then s.word argument
    else
      match cs with
      | ['-', '-'] => some { s with literal := true }
      | '-' :: '-' :: text => s.long text
      | '-' :: c :: text => s.short (c :: text)
      | _ => s.word argument

/-- Takes one argument; behind `help` all of them are topics. -/
def step (s : State) (argument : String) : Option State :=
  if s.settled.isSome then some s
  else
    match s.topics with
    | some ts => some { s with topics := some (ts ++ [argument]) }
    | none => s.read argument

def command? (s : State) : Option Command :=
  match s.kind, s.words with
  | some .serial, [] => some .serial
  | some .keys, [] => some (.keys s.json)
  | some .readCert, [id] => some (.readCert id s.output)
  | some .sign, [keyId, digest] => some (.sign keyId digest s.hash)
  | some .decipher, [keyId, data] => some (.decipher keyId data)
  | _, _ => none

/-- There is help about the whole, about each command and about help. -/
def isTopic : List String → Bool
  | [] => true
  | [t] => t = "help" || (Kind.ofName? t).isSome
  | _ => false

def finish (s : State) : Option Request :=
  match s.settled, s.topics with
  | some r, _ => some r
  | none, some ts => if isTopic ts then some .help else none
  | none, none =>
    if s.pending.isSome then none
    else s.command?.map fun c => .run ⟨s.reader, s.verbose, s.debugTransport, c⟩

end State

/-- Reads the arguments, or refuses them. -/
def Request.parse (arguments : List String) : Option Request :=
  (arguments.foldlM State.step {}).bind State.finish

end SmartCard.CommandLine
