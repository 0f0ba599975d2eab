import SmartCard.Log
import SmartCard.Journal
import SmartCard.Pcsc.Command
import SmartCard.Pcsc.ControlParameters
import SmartCard.Pcsc.Manager

/-!
# Contexts and connections of the resource manager

Objects that hold a context keep it alive; it is released when the last one goes. What fails to
be given back on request is given back once more when its object goes.
-/
namespace SmartCard.Pcsc

/-- What the driver does, with the events of the manager and its own log. -/
abbrev Work (α : Type) := Action Manager (Note Event) α

inductive Error
  | manager (c : ReturnCode)
  /-- The two status octets of a response. -/
  | status (sw1 sw2 : UInt8)
  | malformedParameters
  | closed
  | positionOutOfRange (position : Nat)
  deriving DecidableEq, Repr

/-- A number in upper case digits behind `0x`. -/
def hexNumber (n : Nat) : String :=
  "0x" ++ String.ofList ((Nat.toDigits 16 n).map Char.toUpper)

namespace Error

def message : Error → String
  | manager c => s!"Error occurred while communicating with PC/SC: {c.text}"
  | status sw1 sw2 =>
    s!"The card returned an error ({hexNumber sw1.toNat}, {hexNumber sw2.toNat})"
  | malformedParameters => "The card returned a malformed FCP template"
  | closed => "The connection to the card is closed"
  | positionOutOfRange position => s!"Offset {hexNumber position} is out of range of READ BINARY"

def code : Error → Fault.Code
  | manager .noSmartcard => .cardNotPresent
  | manager .removedCard => .cardRemoved
  | manager .noMemory => .outOfMemory
  | manager .unsupportedCard => .invalidCard
  | manager .unsupportedFeature => .notSupported
  | manager .noReadersAvailable => .noReaders
  | manager c => .other c.signed
  | status sw1 sw2 =>
    if sw1 = 0x6A ∧ sw2 = 0x82 then .fileNotFound
    else if sw1 = 0x69 ∧ sw2 = 0x82 then .securityStatusNotSatisfied
    else .other (Octets.bigEndian [sw1, sw2])
  | malformedParameters => .invalidCard
  | closed => .internal
  | positionOutOfRange _ => .invalidArguments

def fault (e : Error) : Fault := ⟨e.code, e.message⟩

end Error

def event (e : Event) : Work Unit := Action.write (.event e)

def debug (text : String) : Work Unit := Action.write (.log ⟨.debug, text⟩)

/-- An object that holds a context goes; the last one takes the context with it. -/
def drop (context : Nat) : Work Unit := do
  Action.change (Manager.letGo context)
  if !(← Action.look fun m => m.holders.contains context) then event .release

/-! ## Contexts -/

structure Context where
  /-- The number of the context, unless it has been released. -/
  handle : Option Nat
  readers : List String
  /-- Logs the commands and responses of its connections. -/
  traced : Bool
  deriving DecidableEq, Repr

structure Connection where
  /-- The context that the card holds, unless the card has been disconnected. -/
  card : Option Nat
  traced : Bool
  deriving DecidableEq, Repr

namespace Context

/-- Lists the readers of a new context; none at all is no failure. -/
def listed (context : Nat) (traced : Bool) : Work (Except Error Context) := do
  match ← Action.look Manager.names with
  | .ok names =>
    Action.writeAll (names.map fun n => .log ⟨.debug, s!"Found reader: {n}"⟩)
    return .ok ⟨some context, names, traced⟩
  | .error .noReadersAvailable => return .ok ⟨some context, [], traced⟩
  | .error c =>
    drop context
    return .error (.manager c)

def establish (application : String) (traced : Bool) : Work (Except Error Context) := do
  debug s!"Establishing PC/SC context for {application}"
  event .establish
  match ← Action.look (·.establish) with
  | some c => return .error (.manager c)
  | none =>
    let context ← Action.look (·.contexts)
    Action.change fun m => ({ m with contexts := context + 1 }).hold context
    listed context traced

def readerCount (c : Context) : Nat := c.readers.length

/-- The name of a reader and the number of the context, as a call to the manager needs them. -/
def target (c : Context) (reader : Nat) : Except Error (String × Nat) :=
  match c.readers[reader]?, c.handle with
  | none, _ => .error (.manager .unknownReader)
  | some _, none => .error .closed
  | some name, some context => .ok (name, context)

def detect (c : Context) (reader : Nat) : Work (Except Error Bool) :=
  match c.target reader with
  | .error e => return .error e
  | .ok (name, _) => do
    event (.status (← Action.look (·.indexOf name)))
    match ← Action.look (·.readerNamed? name) with
    | none => return .error (.manager .unknownReader)
    | some r =>
      match r.status with
      | some code => return .error (.manager code)
      | none => return .ok r.present

def connect (c : Context) (reader : Nat) : Work (Except Error Connection) :=
  match c.target reader with
  | .error e => return .error e
  | .ok (name, context) => do
    event (.connect (← Action.look (·.indexOf name)))
    match (← Action.look (·.readerNamed? name)).elim (some .unknownReader) (·.connect) with
    | some code => return .error (.manager code)
    | none =>
      Action.change (Manager.hold context)
      debug s!"Connected to the card in {name}"
      return .ok ⟨some context, c.traced⟩

def notReleased (context : Nat) (code : ReturnCode) : Work Unit := do
  debug s!"Failed to release the PC/SC context: {code.text}"
  drop context

/-- Releases a context that nothing else holds. -/
def releaseSole (context : Nat) : Work Unit := do
  event .release
  match ← Action.look (·.release) with
  | none => Action.change (Manager.letGo context)
  | some code => notReleased context code

/-- Cards of a context stand in the way of its release. -/
def giveBack (context : Nat) : Work Unit := do
  let held ← Action.look fun m => m.holders.count context
  if 1 < held then notReleased context .cantDispose else releaseSole context

def release (c : Context) : Work Context :=
  match c.handle with
  | none => return c
  | some context => do
    giveBack context
    return { c with handle := none }

/-- The object goes without being released. -/
def discard (c : Context) : Work Unit :=
  match c.handle with
  | some context => drop context
  | none => return

end Context

/-! ## Connections -/

namespace Connection

/-- Changes the share mode of the card. -/
def share (mode : ShareMode) : Work (Option ReturnCode) := do
  event (.reconnect mode)
  let r ← Action.look Manager.reconnect
  Action.change fun _ => r.2
  return r.1

def lock (k : Connection) : Work (Except Error Unit) :=
  match k.card with
  | none => return .error .closed
  | some _ => do
    match ← share .exclusive with
    | some code => return .error (.manager code)
    | none => return .ok ()

def unlock (k : Connection) : Work Unit :=
  match k.card with
  | none => return
  | some _ => do
    match ← share .shared with
    | some code => debug s!"Failed to unlock the card: {code.text}"
    | none => return

/-- A card that goes without being disconnected is reset. -/
def discard (k : Connection) : Work Unit :=
  match k.card with
  | none => return
  | some context => do
    event (.disconnect .reset)
    drop context

/-- Leaves the card as it is. -/
def giveBack (k : Connection) (context : Nat) : Work Unit := do
  event (.disconnect .leave)
  match ← Action.look (·.disconnect) with
  | none => drop context
  | some code => do
    debug s!"Failed to disconnect the card: {code.text}"
    k.discard

def disconnect (k : Connection) : Work Connection :=
  match k.card with
  | none => return k
  | some context => do
    k.giveBack context
    return { k with card := none }

/-! ## Commands -/

def trace (k : Connection) (text : String) : Work Unit :=
  if k.traced then debug text else return

/-- What the manager answers to a command. -/
def exchange (command : Octets) : Work (Except ReturnCode Octets) := do
  event (.transmit command)
  let r ← Action.look Manager.respond
  Action.change fun _ => r.2
  return r.1

/-- Sends octets to the card and takes its response. -/
def transmit (k : Connection) (command : Octets) : Work (Except Error Octets) := do
  k.trace s!"TX: {Hex.lower command}"
  match k.card with
  | none => return .error .closed
  | some _ =>
    match ← exchange command with
    | .error code => return .error (.manager code)
    | .ok response => do
      k.trace s!"RX: {Hex.lower response}"
      return .ok response

/-- Gathers the data of a response and of the further ones that the card announces by the status
`61`; `pending` bounds their number. -/
def collect (k : Connection) : (pending : Nat) → (response : Octets) → Work (Except Error Octets)
  | pending, response =>
    match response.splitLastTwo with
    | none => return .error (.status 0x00 0x00)
    | some (data, sw1, sw2) =>
      if (sw1 = 0x90 ∨ sw1 = 0x91) ∧ sw2 = 0x00 then return .ok data
      else if sw1 = 0x61 then
        match pending with
        | 0 => return .error (.status sw1 sw2)
        | pending + 1 => do
          match ← k.transmit (Command.getResponse sw2).octets with
          | .error e => return .error e
          | .ok response => return (← collect k pending response).map (data ++ ·)
      else return .error (.status sw1 sw2)

/-- Sends a command, gathers its response and checks the status. Each further response is one
that the manager has in its script, or the last. -/
def handle (k : Connection) (c : Command) : Work (Except Error Octets) := do
  let pending ← Action.look fun m => m.responses.length
  match ← k.transmit c.octets with
  | .error e => return .error e
  | .ok response => k.collect pending response

def select (k : Connection) (path : Path) : Work (Except Error FileInfo) := do
  match ← k.handle (.select path) with
  | .error e => return .error e
  | .ok response =>
    match ControlParameters.ofResponse? response with
    | some info => return .ok info
    | none => return .error .malformedParameters

/-- Reads `missing` octets from `position` on, in at most `commands` commands; a piece shorter
than what was asked for is the last. -/
def readFrom (k : Connection) :
    (commands : Nat) → (position missing : Nat) → Work (Except Error Octets)
  | 0, _, _ => return .ok []
  | commands + 1, position, missing =>
    if missing = 0 then return .ok []
    else if Command.maxPosition < position then return .error (.positionOutOfRange position)
    else do
      let le := min missing Command.maxRead
      match ← k.handle (.readBinary position (UInt8.ofNat le)) with
      | .error e => return .error e
      | .ok piece =>
        if piece.length < le then return .ok piece
        else
          return (← k.readFrom commands (position + piece.length) (missing - piece.length)).map
            (piece ++ ·)

/-- Reads octets of the selected file; each command but the last brings some. -/
def read (k : Connection) (offset length : Nat) : Work (Except Error Octets) :=
  k.readFrom length offset length

/-- Application directories are never bound. -/
def noDirectory : Fault :=
  ⟨.applicationNotFound, "No application directory support in the PC/SC driver"⟩

end Connection

end SmartCard.Pcsc
