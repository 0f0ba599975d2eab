import SmartCard.Simulator.Card
import SmartCard.Stack

/-!
# A simulated driver stack

Readers hold one card each and know whether it is locked. A connection remembers the file that
it selected last, as it was then; everything else is looked up in the card that is in the reader
at the time of the call.
-/
namespace SmartCard.Simulator

structure Reader where
  card : Option Card
  locked : Bool

structure Selection where
  file : File
  reads : Nat

structure World where
  readers : List Reader
  establishFault : Option Fault
  /-- The number of connections made so far. -/
  connections : Nat
  /-- The selected files by connection. -/
  selections : List (Nat × Selection)

structure Connection where
  number : Nat
  reader : Nat
  deriving DecidableEq, Repr

/-- An application keeps the serial number that the card had when it was bound. -/
structure Application where
  reader : Nat
  serial : Option String
  deriving DecidableEq, Repr

namespace World

def ofCards (cards : List (Option Card)) (establishFault : Option Fault) : World :=
  ⟨cards.map fun c => ⟨c, false⟩, establishFault, 0, []⟩

def card? (w : World) (reader : Nat) : Option Card := w.readers[reader]?.bind (·.card)

def isLocked (w : World) (reader : Nat) : Bool := (w.readers[reader]?.map (·.locked)).getD false

def setLocked (w : World) (reader : Nat) (locked : Bool) : World :=
  { w with readers := w.readers.modify reader fun r => { r with locked := locked } }

/-- Puts another card into a reader, or none; the lock stays as it is. -/
def exchange (reader : Nat) (card : Option Card) (w : World) : World :=
  { w with readers := w.readers.modify reader fun r => { r with card := card } }

def removed : Fault := ⟨.cardRemoved, "card removed"⟩

/-- The card in a reader, unless it is gone or told to fail. -/
def cardAt (w : World) (reader : Nat) (p : Point) : Except Fault Card :=
  match w.card? reader with
  | none => .error removed
  | some c =>
    match c.fault? p with
    | some f => .error f
    | none => .ok c

def detect (w : World) (reader : Nat) : Except Fault Bool :=
  match w.card? reader with
  | none => .ok false
  | some c =>
    match c.fault? .detect with
    | some f => .error f
    | none => .ok c.present

def connect (w : World) (reader : Nat) : Except Fault Connection × World :=
  match w.cardAt reader .connect with
  | .error f => (.error f, w)
  | .ok _ => (.ok ⟨w.connections, reader⟩, { w with connections := w.connections + 1 })

def lock (w : World) (reader : Nat) : Except Fault Unit × World :=
  match w.cardAt reader .lock with
  | .error f => (.error f, w)
  | .ok _ =>
    if w.isLocked reader then (.error ⟨.other (-1), "card in use"⟩, w)
    else (.ok (), w.setLocked reader true)

def setSelection (w : World) (k : Connection) (s : Selection) : World :=
  { w with selections := (k.number, s) :: w.selections.filter fun e => e.1 ≠ k.number }

def select (w : World) (k : Connection) (path : Path) : Except Fault FileInfo × World :=
  match w.cardAt k.reader .select with
  | .error f => (.error f, w)
  | .ok c =>
    match c.files.lookup path.text with
    | none => (.error ⟨.fileNotFound, "file not found"⟩, w)
    | some file =>
      match file.selectFault with
      | some f => (.error f, w)
      | none => (.ok file.info, w.setSelection k ⟨file, 0⟩)

def serve (file : File) (offset length : Nat) : Octets :=
  (file.data.drop offset).take (min length file.maxRead) ++ List.replicate file.overread 0xEE

def readFault? (s : Selection) : Option Fault :=
  if s.reads < s.file.readsBeforeFault then none else s.file.readFault

def read (w : World) (k : Connection) (offset length : Nat) : Except Fault Octets × World :=
  match w.cardAt k.reader .read with
  | .error f => (.error f, w)
  | .ok _ =>
    match w.selections.lookup k.number with
    | none => (.error ⟨.internal, "no file selected"⟩, w)
    | some s =>
      match readFault? s with
      | some f => (.error f, w)
      | none => (.ok (serve s.file offset length), w.setSelection k { s with reads := s.reads + 1 })

def bind (w : World) (k : Connection) : Except Fault Application :=
  (w.cardAt k.reader .bind).bind fun c =>
    match c.application with
    | none => .error ⟨.applicationNotFound, "application not found"⟩
    | some d => .ok ⟨k.reader, d.serial⟩

/-- What the directory of the card in the reader answers. -/
def ask {α : Type} (w : World) (a : Application) (p : Point) (f : Directory → Except Fault α) :
    Except Fault α := (w.cardAt a.reader p).bind fun c => f c.directory

def verify (pin : String) (d : Directory) : Except Fault Unit :=
  if d.pin = some pin then .ok ()
  else .error ⟨.securityStatusNotSatisfied, "PIN code incorrect"⟩

end World

def answer {α : Type} (f : World → Except Fault α) : Reply World Empty α := Action.look f

def answerWith {α : Type} (f : World → Except Fault α × World) : Reply World Empty α := fun w =>
  let r := f w
  ⟨r.1, r.2, []⟩

/-- The simulator has one context. -/
def stack : Stack World Empty Unit Connection Application where
  establish _ _ := answer fun w =>
    match w.establishFault with
    | some f => .error f
    | none => .ok ()
  readerCount w _ := w.readers.length
  detect _ reader := answer (·.detect reader)
  connect _ reader := answerWith (·.connect reader)
  release _ := return
  driverName _ := "simulated"
  lock k := answerWith (·.lock k.reader)
  unlock k := Action.change (·.setLocked k.reader false)
  disconnect _ := return
  select k path := answerWith (·.select k path)
  read k offset length := answerWith (·.read k offset length)
  bind k := answer (·.bind k)
  serialNumber _ a := a.serial
  privateKeys a := answer (·.ask a .privateKeys fun d => .ok d.keys)
  certificate a id :=
    answer (·.ask a .certificate fun d => .ok (d.certificates.lookup (Hex.upper id)))
  pinLabel a _ := answer (·.ask a .pinLabel fun d => .ok d.pinLabel)
  verifyPin a _ pin := answer (·.ask a .verifyPin (World.verify pin))
  sign a _ _ digest := answer (·.ask a .sign fun _ => .ok digest.reverse)
  decipher a _ data := answer (·.ask a .decipher fun _ => .ok (data.map (· ^^^ 0xFF)))
  unbind _ := return

/-- Takes the octets of a certificate for the modulus of an RSA key with the exponent 3. -/
def parser : CertificateParser := fun o =>
  if o.isEmpty then none
  else some (Sexp.list [.atom (Octets.ofText "public-key"),
    .list [.atom (Octets.ofText "rsa"),
      .list [.atom (Octets.ofText "n"), .atom o],
      .list [.atom (Octets.ofText "e"), .atom [3]]]]).write

end SmartCard.Simulator
