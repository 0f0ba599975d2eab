/-!
# Files to write to

What a run has to know of a disk to tell where it can write. A file is created in a directory
that exists and takes new files; a directory is no file, and some files refuse what is written to
them or stand for the output of the run itself.
-/
namespace SmartCard.CommandLine

namespace Disk

inductive Error
  | notFound
  | inputOutput
  | noDevice
  | denied
  | notDirectory
  | isDirectory
  | full
  | nameTooLong
  deriving DecidableEq, Repr

def Error.code : Error → Nat
  | notFound => 2
  | inputOutput => 5
  | noDevice => 6
  | denied => 13
  | notDirectory => 20
  | isDirectory => 21
  | full => 28
  | nameTooLong => 36

def Error.kind : Error → String
  | notFound => "NotFound"
  | inputOutput | noDevice => "Uncategorized"
  | denied => "PermissionDenied"
  | notDirectory => "NotADirectory"
  | isDirectory => "IsADirectory"
  | full => "StorageFull"
  | nameTooLong => "InvalidFilename"

def Error.message : Error → String
  | notFound => "No such file or directory"
  | inputOutput => "Input/output error"
  | noDevice => "No such device or address"
  | denied => "Permission denied"
  | notDirectory => "Not a directory"
  | isDirectory => "Is a directory"
  | full => "No space left on device"
  | nameTooLong => "File name too long"

/-- A place is given by the names on the way from the root. -/
abbrev Place := List String

/-- What stands at a place. -/
inductive Node
  | directory
  /-- A directory in which no file can be created, and the error of whoever tries. -/
  | sealed (e : Error)
  | file
  /-- A file that refuses what is written to it. -/
  | refusing (e : Error)
  /-- The standard output of the run. -/
  | output
  deriving DecidableEq, Repr

def Node.isDirectory : Node → Bool
  | directory | sealed _ => true
  | _ => false

/-- Where a run writes to. -/
inductive Target
  | file (path : String)
  | standardOutput
  deriving DecidableEq, Repr

end Disk

/-- The root and the working directory are directories in any case. -/
structure Disk where
  nodes : List (Disk.Place × Disk.Node)
  working : Disk.Place

namespace Disk

/-! ## Paths -/

/-- The texts between the slashes. -/
def pieces : List Char → List String
  | [] => [""]
  | c :: cs =>
    if c = '/' then "" :: pieces cs
    else
      match pieces cs with
      | n :: ns => String.ofList (c :: n.toList) :: ns
      | [] => [String.ofList [c]]

/-- The names in a path, between which there may be any number of slashes. -/
def names (path : String) : List String := (pieces path.toList).filter (· ≠ "")

/-- The longest name in octets. -/
def nameLimit : Nat := 255

/-- The longest path in octets, with a closing zero. -/
def pathLimit : Nat := 4096

/-- A path that can only be that of a directory. -/
def namesDirectory (path : String) : Bool :=
  path.toList.getLast? = some '/' || (names path).getLast? = some "." ||
    (names path).getLast? = some ".."

/-! ## The way to a file -/

def node? (d : Disk) (place : Place) : Option Node :=
  match d.nodes.lookup place with
  | some n => some n
  | none => if place = [] ∨ place = d.working then some .directory else none

/-- The error of whoever looks for a name that is not in a directory. -/
def missing (d : Disk) (place : Place) (name : String) : Error :=
  match d.node? place with
  | some (.sealed _) => .notFound
  | _ => if nameLimit < name.utf8ByteSize then .nameTooLong else .notFound

/-- The directory that names lead to from a place. -/
def walk (d : Disk) (place : Place) : List String → Except Error Place
  | [] => .ok place
  | n :: ns =>
    if n = "." then walk d place ns
    else if n = ".." then walk d place.dropLast ns
    else
      match d.node? (place ++ [n]) with
      | some node => if node.isDirectory then walk d (place ++ [n]) ns else .error .notDirectory
      | none => .error (d.missing place n)

/-- Where a path starts. -/
def origin (d : Disk) (path : String) : Place :=
  if path.toList.head? = some '/' then [] else d.working

/-- A new file of this name in a directory. -/
def create (d : Disk) (path : String) (place : Place) (name : String) : Except Error Target :=
  match d.node? place with
  | some (.sealed e) => .error e
  | _ => if nameLimit < name.utf8ByteSize then .error .nameTooLong else .ok (.file path)

/-- The file of this name in a directory, which is created unless it is there. -/
def fileAt (d : Disk) (path : String) (place : Place) (name : String) : Except Error Target :=
  match d.node? (place ++ [name]) with
  | some .directory | some (.sealed _) => .error .isDirectory
  | some .file => .ok (.file path)
  | some (.refusing e) => .error e
  | some .output => .ok .standardOutput
  | none => d.create path place name

/-- Where writing to a path ends up. The way to the file has to exist in any case. -/
def target (d : Disk) (path : String) : Except Error Target :=
  if pathLimit ≤ path.utf8ByteSize then .error .nameTooLong
  else
    (d.walk (d.origin path) (names path).dropLast).bind fun place =>
      if namesDirectory path then .error .isDirectory
      else d.fileAt path place ((names path).getLastD "")

/-! ## A disk as systems lay them out -/

/-- The same node under several names in one place. -/
def nodesIn (place : Place) (node : Node) (ns : List String) : List (Place × Node) :=
  ns.map fun n => (place ++ [n], node)

def programs : List String := ["bash", "cat", "cp", "env", "false", "ls", "sh", "true"]

/-- The system's own directories and files. -/
def systemNodes : List (Place × Node) :=
  nodesIn [] .directory ["bin", "boot", "dev", "etc", "home", "lib", "lib64", "media", "mnt", "opt",
      "root", "run", "sbin", "srv", "tmp", "usr", "var"] ++
    nodesIn ["usr"] .directory ["bin", "games", "include", "lib", "lib64", "libexec", "local",
      "sbin", "share", "src"] ++
    nodesIn ["usr", "local"] .directory ["bin", "etc", "games", "include", "lib", "sbin", "share",
      "src"] ++
    nodesIn ["var"] .directory ["backups", "cache", "lib", "local", "lock", "log", "mail", "opt",
      "run", "spool", "tmp"] ++
    nodesIn ["etc"] .directory ["alternatives", "apt", "default", "init.d", "opt", "profile.d",
      "security", "skel", "ssl"] ++
    nodesIn ["run"] .directory ["lock"] ++
    nodesIn ["etc"] .file ["fstab", "group", "hostname", "hosts", "nsswitch.conf", "os-release",
      "passwd", "profile", "resolv.conf", "shadow"] ++
    nodesIn ["bin"] .file programs ++ nodesIn ["usr", "bin"] .file programs

/-- Devices, which write nothing to the disk. -/
def deviceNodes : List (Place × Node) :=
  nodesIn ["dev"] .file ["null", "ptmx", "random", "stderr", "stdin", "urandom", "zero"] ++
    nodesIn ["dev"] (.refusing .full) ["full"] ++
    nodesIn ["dev"] (.refusing .noDevice) ["tty"] ++
    nodesIn ["dev"] .output ["stdout"] ++
    nodesIn ["dev"] .directory ["mqueue", "shm"] ++
    nodesIn ["dev"] (.sealed .denied) ["pts"] ++
    nodesIn ["dev"] (.sealed .notFound) ["fd"] ++
    nodesIn ["dev", "fd"] .output ["1"] ++
    nodesIn ["dev", "fd"] .file ["0", "2"]

/-- What the system tells about itself, to which nothing can be added. -/
def kernelNodes : List (Place × Node) :=
  nodesIn [] (.sealed .notFound) ["proc"] ++
    nodesIn ["proc"] (.sealed .notFound) ["1", "bus", "fs", "irq", "net", "self", "sys", "tty"] ++
    nodesIn ["proc"] (.refusing .inputOutput) ["cmdline", "cpuinfo", "filesystems", "loadavg",
      "meminfo", "modules", "mounts", "stat", "uptime", "version"] ++
    nodesIn ["proc", "self"] (.sealed .notFound) ["fd", "net", "ns", "task"] ++
    nodesIn ["proc", "self"] .directory ["cwd", "root"] ++
    nodesIn ["proc", "self", "fd"] .output ["1"] ++
    nodesIn ["proc", "self", "fd"] .file ["0", "2"] ++
    nodesIn [] (.sealed .denied) ["sys"] ++
    nodesIn ["sys"] (.sealed .denied) ["block", "bus", "class", "devices", "fs", "kernel"]

def usual : Disk := ⟨systemNodes ++ deviceNodes ++ kernelNodes, ["home", "cardholder"]⟩

end Disk

end SmartCard.CommandLine
