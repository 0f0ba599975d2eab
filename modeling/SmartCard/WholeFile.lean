import SmartCard.Serial
import SmartCard.Stack

/-!
# Whole files

Two ways to read a transparent file from start to end: piece by piece, for certificates, and in
one read, for the GDO file. A file that is read piece by piece needs a buffer for all of it.
-/
namespace SmartCard.WholeFile

variable {ω ε Context Connection Application : Type}
  (S : Stack ω ε Context Connection Application)

/-- Reads in at most `reads` calls what a file of `size` octets holds from `start` on; an empty
answer ends the reading. -/
def fragments (k : Connection) (size : Nat) : (reads : Nat) → (start : Nat) → Task ω ε Octets
  | 0, _ => return []
  | reads + 1, start =>
    if size ≤ start then return []
    else do
      let piece ← Task.callThrough (.read start (size - start)) (S.read k start (size - start))
      if piece.isEmpty then return []
      else return piece ++ (← fragments k size reads (start + piece.length))

/-- The whole content of the transparent working file at the path, never more or less. -/
def read (k : Connection) (path : Path) : Task ω ε Octets := do
  let file ← Task.callThrough (.select path) (S.select k path)
  Task.require (file.isTransparentWorking && file.size ≠ 0) (throw .cardError)
  let content ← fragments S k file.size file.size 0
  Task.require (content.length = file.size) (throw .cardError)
  return content

/-! ## Buffers -/

/-- No buffer holds more octets. -/
def capacity : Nat := 0x7FFFFFFFFFFFFFFF

/-- Reads the file as a program does that first makes a buffer for all of it. If no buffer is that
large the program breaks off, and there is no answer. -/
def readBuffered (k : Connection) (path : Path) :
    Action ω (Entry ε) (Option (Except Failure Octets)) := do
  match ← (Task.callThrough (.select path) (S.select k path)).run with
  | .error f => return some (.error f)
  | .ok file =>
    if file.fileType ≠ .workingEf ∨ file.efStructure ≠ .transparent ∨ file.size = 0 then
      return some (.error .cardError)
    else if capacity < file.size then
      return none
    else
      match ← (fragments S k file.size file.size 0).run with
      | .error f => return some (.error f)
      | .ok content =>
        return some (if content.length = file.size then .ok content else .error .cardError)

/-- The file at the path is one to be read, and too large for a buffer. -/
def breaksOff (k : Connection) (path : Path) (w : ω) : Bool :=
  match (S.select k path w).value with
  | .error _ => false
  | .ok file => file.isTransparentWorking && capacity < file.size

/-! ## The GDO file -/

def gdoPath : Path := ⟨[.master, ⟨0x2F, 0x02⟩]⟩

/-- Files of this size and above are not taken for a GDO file. -/
def gdoLimit : Nat := 256

def readGdo (k : Connection) : Task ω ε Octets := do
  let file ← Task.callOr "select of the GDO file failed" (fun _ => .cardError)
    (.select gdoPath) (S.select k gdoPath)
  Task.require file.isTransparentWorking
    (Task.refuse "wrong type or structure of GDO file" .cardError)
  Task.require (file.size ≠ 0 && file.size < gdoLimit)
    (Task.refuse s!"unsupported size of GDO file ({file.size})" .cardError)
  let content ← Task.callOr "error reading GDO file" (fun _ => .cardError)
    (.read 0 file.size) (S.read k 0 file.size)
  Task.require (content.length = file.size) (Task.refuse "short read on GDO file" .cardError)
  return content

/-- What is logged about a number that was taken from the GDO file. -/
def iccsnLogs (i : Serial.Iccsn) : List Log :=
  if i.shortened then [⟨.debug, "enabling BMI testcard workaround"⟩] else []

/-- The serial number of the card, normalized for the application's own. -/
def resolveSerial (k : Connection) (application : Option String) : Task ω ε String := do
  let gdo ← readGdo S k
  match Serial.findIccsn gdo with
  | .ok i =>
    Task.logAll (iccsnLogs i)
    return Serial.normalize i.text application
  | .error f => Task.refuse "invalid structure of GDO file" f

end SmartCard.WholeFile
