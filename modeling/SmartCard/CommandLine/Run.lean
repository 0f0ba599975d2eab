import SmartCard.CommandLine.Arguments
import SmartCard.CommandLine.Disk
import SmartCard.Session

/-!
# Runs of the command line

A run opens a session, reads the serial number, carries out its command and closes the session
again. Its answer is complete before any of it is given out.
-/
namespace SmartCard.CommandLine

inductive Error
  | card (f : Failure)
  | hex (e : Hex.Error)
  | disk (e : Disk.Error)
  deriving DecidableEq, Repr

def hexDescription : Hex.Error → String
  | .oddLength => "OddLength"
  | .invalidCharacter c i =>
    "InvalidHexCharacter \x7b c: " ++ Text.quotedChar c ++ ", index: " ++ toString i ++ " \x7d"

def diskDescription (e : Disk.Error) : String :=
  "Os \x7b code: " ++ toString e.code ++ ", kind: " ++ e.kind ++ ", message: " ++
    Text.quoted e.message ++ " \x7d"

/-- The form in which a run reports its error. -/
def Error.description : Error → String
  | card f => s!"Card({f.label})"
  | hex e => s!"Hex({hexDescription e})"
  | disk e => s!"Io({diskDescription e})"

/-- The answer of a run. -/
inductive Output
  | text (s : String)
  | octets (target : Disk.Target) (content : Octets)
  deriving DecidableEq, Repr

def Output.lines (ls : List String) : Output := .text (String.join (ls.map (· ++ "\n")))

abbrev Job (ω ε α : Type) := ExceptT Error (Action ω (Entry ε)) α

variable {ω ε Context Connection Application : Type}
  (S : Stack ω ε Context Connection Application)

def Job.ofTask {α : Type} (t : Task ω ε α) : Job ω ε α := ExceptT.mk do
  return (← t.run).mapError .card

def Job.log {ω ε : Type} (level : Level) (text : String) : Job ω ε Unit :=
  ExceptT.lift (Action.write (.ofLog ⟨level, text⟩))

/-- Keys are numbered by words of 32 bits with a sign. -/
def keyLimit : Nat := 0x80000000

/-- The keypairs from an index on; keys without certificate are passed over with a warning. -/
def keysFrom (s : Session Context Connection Application) :
    (left : Nat) → (index : Nat) → Job ω ε (List Keypair)
  | 0, _ => throw (.card .invalidIndex)
  | left + 1, index => do
    match ← ExceptT.lift (s.keypair S index).run with
    | .ok none => return []
    | .ok (some k) => return k :: (← keysFrom s left (index + 1))
    | .error .missingCertificate =>
      Job.log .warn s!"Skipping keypair {index} without certificate"
      keysFrom s left (index + 1)
    | .error f => throw (.card f)

def listKeys (s : Session Context Connection Application) : Job ω ε (List Keypair) :=
  keysFrom S s keyLimit 0

def keyLine (k : Keypair) : String := k.keygrip.text ++ " " ++ k.keyId.getD ""

/-- There is nobody to ask: a card in a reader of the resource manager is never bound to a backend
that signs or deciphers. -/
def noPin : PinCallback := fun _ => .error .invalidValue

def decodeArgument (text : String) : Job ω ε Octets :=
  match Hex.decode text with
  | .ok o => return o
  | .error e => throw (.hex e)

/-- The content, for wherever the path leads on the disk. -/
def output (disk : Disk) (path : String) (content : Octets) : Job ω ε Output :=
  match disk.target path with
  | .ok target => return .octets target content
  | .error e => throw (.disk e)

def execute (disk : Disk) (s : Session Context Connection Application) (serial : String) :
    Command → Job ω ε Output
  | .serial => return .lines [serial]
  | .keys json => do
    let ks ← listKeys S s
    return .lines (if json then [Keypair.jsonList ks] else ks.map keyLine)
  | .readCert id path => do
    let c ← Job.ofTask (s.readCertificate S id)
    match path with
    | some path => output disk path c
    | none => return .lines [Hex.lower c]
  | .sign keyId digest hash => do
    let digest ← decodeArgument digest
    return .lines [Hex.lower (← Job.ofTask (s.sign S keyId hash (some noPin) digest))]
  | .decipher keyId data => do
    let data ← decodeArgument data
    return .lines [Hex.lower (← Job.ofTask (s.decipher S keyId (some noPin) data))]

def Arguments.options (a : Arguments) : Options :=
  { reader := a.reader, verbose := a.verbose, debugTransport := a.debugTransport }

/-- What an open session does for a command once its serial number has been asked for. -/
def afterSerial (disk : Disk) (s : Session Context Connection Application) (c : Command)
    (r : Except Failure (String × Nat)) : Job ω ε Output :=
  match r with
  | .error f => throw (.card f)
  | .ok (serial, _) => do
    let name := s.backendName.getD ""
    Job.log .info s!"Using the {name} backend in reader {s.reader}"
    execute S disk s serial c

def run (parser : CertificateParser) (disk : Disk) (a : Arguments) :
    Action ω (Entry ε) (Except Error Output) := do
  match ← (Session.start S parser a.options).run with
  | .error f => return .error (.card f)
  | .ok s =>
    let (r, s) ← s.serialAndStamp S
    let output ← (afterSerial S disk s a.command r).run
    s.close S
    return output

end SmartCard.CommandLine
