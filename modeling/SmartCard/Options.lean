/-! # Options of a session -/
namespace SmartCard

structure Options where
  /-- The index of the reader to use. -/
  reader : Nat := 0
  /-- Logs the driver in use and the result of each operation. -/
  verbose : Bool := false
  /-- Asks the driver stack to log its traffic. -/
  debugTransport : Bool := false
  /-- The application for which the context is established. -/
  appName : String := "scdaemon"
  deriving DecidableEq, Repr

/-- A value in a configuration. -/
inductive Setting
  | flag (b : Bool)
  | integer (n : Int)
  | text (s : String)
  | list (values : List Setting)
  | table (entries : List (String × Setting))
  | other

namespace Options

/-- Readers are counted in 64 bits. -/
def readerLimit : Nat := 0x10000000000000000

def setReader (o : Options) : Setting → Option Options
  | .integer (.ofNat n) => if n < readerLimit then some { o with reader := n } else none
  | _ => none

/-- Takes one entry; those of other names are left alone. -/
def set (o : Options) (name : String) (value : Setting) : Option Options :=
  if name = "reader" then o.setReader value
  else if name = "verbose" then
    match value with
    | .flag b => some { o with verbose := b }
    | _ => none
  else if name = "debug_transport" then
    match value with
    | .flag b => some { o with debugTransport := b }
    | _ => none
  else if name = "app_name" then
    match value with
    | .text s => some { o with appName := s }
    | _ => none
  else some o

/-- The names of the options in the order in which a list gives them. -/
def names : List String := ["reader", "verbose", "debug_transport", "app_name"]

def ofEntries? (entries : List (String × Setting)) : Option Options :=
  entries.foldlM (fun o e => o.set e.1 e.2) {}

/-- Reads options from a table or a list; what is missing keeps its default. -/
def ofSetting? : Setting → Option Options
  | .table entries => ofEntries? entries
  | .list values => if values.length ≤ names.length then ofEntries? (names.zip values) else none
  | _ => none

end Options

end SmartCard
