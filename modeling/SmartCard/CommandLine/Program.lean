import SmartCard.Certificate
import SmartCard.CommandLine.Run
import SmartCard.Pcsc.Stack
import SmartCard.Text.Terminal

/-! # The program on a resource manager -/
namespace SmartCard.CommandLine

def programName : String := "scdcard"

def versionLine : String := programName ++ " 0.1.0\n"

def helpText : String :=
  "Usage: scdcard [OPTIONS] <COMMAND>\n\nCommands:\n" ++
  "  serial                       Prints the serial number of the card\n" ++
  "  keys [--json]                Lists the keypairs on the card with their keygrips\n" ++
  "  read-cert ID [-o FILE]       Reads a certificate from the card in DER\n" ++
  "  sign ID DIGEST [--hash HASH] Signs a hex encoded digest\n" ++
  "  decipher ID DATA             Deciphers hex encoded data\n\nOptions:\n" ++
  "  -r, --reader READER          Index of the reader to use\n" ++
  "  -v, --verbose                Logs the driver in use and the result of each operation\n" ++
  "      --debug-transport        Traces the commands exchanged with the card\n"

/-- The names of the levels, the least detail first. -/
def detailNames : List String := ["off", "error", "warn", "info", "debug", "trace"]

/-- The detail of a level that is given by name, in letters of either case, or by number. -/
def level? (word : String) : Option Nat :=
  match number? word with
  | some n => if n < detailNames.length then some n else none
  | none => detailNames.idxOf? (String.ofList (word.toList.map Char.toLower))

/-- Whether a word may give a level or the name of a part of the program. -/
def isWord (word : String) : Bool :=
  word.toList.all fun c => c.isAlphanum || c = '-' || c = ':' || c = '_'

/-- The detail up to which lines are shown, as the environment gives it. Nothing stands for errors,
and a word that is no level for all lines of the part of that name. -/
def detail? (word : String) : Option Nat :=
  if word.isEmpty then some Level.error.detail
  else if isWord word then
    if word.toList.isPrefixOf programName.toList then some detailNames.length
    else some ((level? word).getD 0)
  else none

def Arguments.detail (a : Arguments) : Nat :=
  if a.debugTransport then Level.debug.detail
  else if a.verbose then Level.info.detail
  else Level.warn.detail

/-- The level in the environment overrides that of the arguments. -/
def shown (environment : Option String) (a : Arguments) (l : Log) : Bool :=
  l.level.detail ≤ (environment.bind detail?).getD a.detail

/-- A line as it is written to a terminal. -/
def harmless (l : Log) : Log := { l with text := Text.harmless l.text }

/-- How the program ends. -/
structure Ending where
  status : Nat
  text : String
  error : Option Error
  logs : List Log
  /-- Octets that are written beside the text, and where. -/
  octets : Option (Disk.Target × Octets)
  events : List Pcsc.Event

def Ending.ofText (s : String) : Ending := ⟨0, s, none, [], none, []⟩

def Ending.ofRun (environment : Option String) (a : Arguments)
    (o : Outcome Pcsc.Manager (Entry Pcsc.Event) (Except Error Output)) : Ending :=
  let logs := ((o.entries.filterMap Entry.log?).filter (shown environment a)).map harmless
  let events := o.entries.filterMap Entry.event?
  match o.value with
  | .error e => ⟨1, "", some e, logs, none, events⟩
  | .ok (.text s) => ⟨0, s, none, logs, none, events⟩
  | .ok (.octets target content) => ⟨0, "", none, logs, some (target, content), events⟩

/-- Arguments that are refused give no ending. -/
def program (environment : Option String) (disk : Disk) (arguments : List String)
    (s : Pcsc.Script) : Option Ending :=
  match Request.parse arguments with
  | none => none
  | some .version => some (.ofText versionLine)
  | some .help => some (.ofText helpText)
  | some (.run a) =>
    some (.ofRun environment a (run Pcsc.stack Certificate.publicKey disk a s.start))

end SmartCard.CommandLine
