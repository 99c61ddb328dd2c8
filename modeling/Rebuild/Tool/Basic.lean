import Rebuild.Command
import Rebuild.Process

/-!
# Programs

A program is run with its name and arguments in a process, and ends with an exit code. Complaints begin with the name by
which it was called.
-/

namespace Rebuild

/-- Starts the program at a path with its name and arguments, and waits for its end. -/
abbrev Launcher := String → List String → ProcessM (Except SystemFault ExitStatus)

/-- What a program does; it may end early. -/
abbrev ToolM := ExceptT ExitStatus ProcessM

/-- A program: what it does with its name and arguments, and its exit code. -/
abbrev Tool := String → List String → ToolM Nat

namespace Process

/-- Whether a node can be run as a program. -/
def isRunnable (n : DiskNode) : Bool :=
  match n.item with
  | .file _ | .program _ => n.isExecutable
  | _ => false

/-- The paths that a name has in a list of directories, which colons separate. -/
def pathsIn (directories name : String) : List String :=
  (directories.toList.splitOnP (· == ':')).map fun directory =>
    if directory.isEmpty then name else String.ofList directory ++ "/" ++ name

/-- The path of the program with a name that is first in a list of directories. -/
def search (d : Disk) (directories name : String) : Except SystemFault String :=
  if 255 < Text.byteLength name then .error .nameTooLong
  else
    let paths := pathsIn directories name
    let found := paths.filter d.isThere
    match found.find? fun path => (d.get path).toOption.any isRunnable, found with
    | some path, _ => .ok path
    | none, [] => .error .noEntry
    | none, _ => .error .denied

/-- The directories in which programs are looked up where nothing else is said. -/
def usualDirectories : String :=
  "/usr/local/sbin:/usr/local/bin:/usr/sbin:/usr/bin:/sbin:/bin"

/-- The path of the program that a command names, by a path or by a name to be looked up. -/
def programPath (p : Process) (name : String) : Except SystemFault String :=
  if name.isEmpty then .error .noEntry
  else if name.toList.contains '/' then .ok name
  else search p.disk ((p.environment.lookup "PATH").getD usualDirectories) name

end Process

namespace Tool

/-! ## What programs do -/

/-- Ends a program with an exit code. -/
def quit (code : Nat) : ToolM α :=
  throw (.exited code)

/-- The disk that a program sees. -/
def disk : ToolM Disk := do
  pure (← get).disk

/-- Writes a line to the error stream, after the name of the program. -/
def complain (name text : String) : ToolM Unit :=
  ExceptT.lift (Process.sayError s!"{name}: {text}\n")

/-- Complains and ends. -/
def fail (name text : String) (code : Nat) : ToolM α := do
  complain name text
  quit code

/-- Complains, says where help is, and ends. -/
def failWithHelp (name text : String) (code : Nat) : ToolM α := do
  complain name text
  ExceptT.lift (Process.sayError s!"Try '{name} --help' for more information.\n")
  quit code

/-- Ends a program if a fault brings it a signal. -/
def endBySignal (fault : SystemFault) : ToolM Unit := do
  match fault.signal? with
  | some signal => throw (.terminated (some signal))
  | none => pure ()

/-- Writes bytes to the output; what cannot be written ends the program. -/
def put (name : String) (bytes : ByteArray) : ToolM Unit := do
  match ← Process.putBytes bytes with
  | .ok () => pure ()
  | .error fault =>
    endBySignal fault
    fail name s!"write error: {fault.text}" 1

/-- Notes that what was read was enough, although it may not have been all. -/
def haveEnough : ToolM Unit :=
  modify fun p => { p with starved := [] }

/-- Writes a text to the output. -/
def say (name text : String) : ToolM Unit :=
  put name (Text.toBytes text)

/-- Changes the disk if that is possible. -/
def edit (change : Disk → Except SystemFault Disk) : ToolM (Except SystemFault Unit) :=
  ExceptT.lift (Process.edit change)

/-- The greatest of the exit codes that something has for each member of a list. -/
def eachOf (members : List α) (action : α → ToolM Nat) : ToolM Nat := do
  let mut code := 0
  for member in members do
    code := max code (← action member)
  pure code

/-- The programs that write what they make of each line before they read all lines. -/
def streamingNames : List String :=
  ["cat", "cut", "egrep", "expand", "fgrep", "fold", "grep", "head", "nl", "paste", "rev", "sed", "tee", "tr", "uniq"]

/-- Whether a program writes what it makes of each line before it reads all lines. Patterns and options that count lines
from the end, or only count them, are excluded. -/
def isStreaming (program : String) (args : List String) : Bool :=
  streamingNames.contains program && args.all fun arg =>
    !(arg.toList.contains '$') && !(arg.startsWith "-" && arg.toList.any "clLq".toList.contains && program != "cut")

/-- Runs a program of the system with the name and arguments by which it is called. What it read of a pipe does not
count if nobody reads what it writes. -/
def run (program : String) (tool : Tool) (words : List String) : ProcessM ExitStatus := do
  let result ← (tool (words.headD "") (words.drop 1)).run
  let p ← get
  if !p.starved.isEmpty && isStreaming program (words.drop 1) then
    match p.outlet? with
    | some outlet => set { p.cutBuffer outlet with starved := [] }
    | none => pure ()
  match result with
  | .ok code => pure (.exited code)
  | .error (.terminated (some signal)) =>
    if signal == Signal.brokenPipe then modify fun p => { p with starved := [] }
    pure (.terminated (some signal))
  | .error status => pure status

end Tool

end Rebuild
