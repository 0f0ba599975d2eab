import SmartCard.CommandLine.Program
import SmartCard.Pcsc.ScriptText

/-!
# The command line

The reader hardware is described on standard input, as a script of its resource manager.
-/
namespace SmartCard.CommandLine

def readLines : IO (List String) := do
  let input ← IO.getStdin
  let mut lines := #[]
  repeat
    let line ← input.getLine
    if line.isEmpty then break
    lines := lines.push (String.ofList (line.toList.filter fun c => c ≠ '\n' ∧ c ≠ '\r'))
  return lines.toList

def write (target : Disk.Target) (content : Octets) : IO Unit := do
  let content := ByteArray.mk content.toArray
  match target with
  | .file path => IO.FS.writeBinFile path content
  | .standardOutput => (← IO.getStdout).write content

/-- Gives out what a run ended with. -/
def conclude (e : Ending) : IO UInt32 := do
  for l in e.logs do IO.eprintln l.line
  IO.print e.text
  if let some (target, content) := e.octets then
    try write target content
    catch error =>
      IO.eprintln s!"Error: {error}"
      return 1
  if let some error := e.error then IO.eprintln s!"Error: {error.description}"
  return UInt32.ofNat e.status

def start (arguments : List String) : IO UInt32 := do
  match Pcsc.Script.ofLines? (← readLines) with
  | none =>
    IO.eprintln "error: bad description of the reader hardware"
    return 2
  | some s =>
    match program (← IO.getEnv "RUST_LOG") .usual arguments s with
    | none =>
      IO.eprintln "error: bad arguments, see --help"
      return 2
    | some e => conclude e

end SmartCard.CommandLine

def main (arguments : List String) : IO UInt32 := SmartCard.CommandLine.start arguments
