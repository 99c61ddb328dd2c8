import Rebuild.Disk.View
import Rebuild.Shell.Run
import Rebuild.Tool.Table

/-!
# Running programs on a disk

A program is a node of a disk that may be executed: one of the system, or a file whose first line names the program that
runs it. A shell starts programs, and a program may start others, each one level deeper; how deep they go is bounded.
`Disk.run` is how a command of a rule runs on a disk.
-/

namespace Rebuild

open Shell

/-- How the commands of shells are run and programs are started. -/
structure Machine where
  run : Command → ShellM Unit
  launch : Launcher

namespace Machine

/-- The program that a file names in its first line as the one to run it, and the argument for that program. -/
def interpreter? (content : ByteArray) : Option (String × Option String) :=
  match Text.charsOfBytes (content.extract 0 256) with
  | '#' :: '!' :: cs =>
    let isBlank (c : Char) : Bool := c == ' ' || c == '\t'
    let line := (cs.takeWhile (· != '\n')).dropWhile isBlank
    let path := line.takeWhile fun c => !isBlank c
    let argument := (((line.drop path.length).dropWhile isBlank).reverse.dropWhile isBlank).reverse
    if path.isEmpty then none
    else some (Text.ofByteChars path, if argument.isEmpty then none else some (Text.ofByteChars argument))
  | _ => none

/-- The names of the shell as a program. -/
def shellNames : List String :=
  ["sh", "dash"]

/-- The names of all programs. -/
def programNames : List String :=
  shellNames ++ (Tool.tools fun _ _ => pure (.error .noEntry)).map Prod.fst

/-- How many files may name a program to run them, one after the other. -/
def maxInterpreters : Nat := 5

/-- The program of the system that runs what is at a path, with the words for it, through at most so many files that
name another program. -/
def resolve (d : Disk) (limit : Nat) (path : String) (words : List String) :
    Except SystemFault (String × List String) :=
  match d.get path with
  | .error fault => .error fault
  | .ok node =>
    if !Process.isRunnable node then .error .denied
    else
      match node.item with
      | .program name => .ok (name, words)
      | .file content =>
        match interpreter? content, limit with
        | some (program, argument), limit + 1 =>
          resolve d limit program (program :: argument.toList ++ path :: words.drop 1)
        | some _, 0 => .error .tooManyLinks
        | none, _ => .error .notProgram
      | _ => .error .denied

/-- Starts the program at a path, on a machine for the programs that it starts. -/
def start (m : Machine) : Launcher := fun path words => do
  match resolve (← get).disk maxInterpreters path words with
  | .error fault => pure (.error fault)
  | .ok (name, words) =>
    if shellNames.contains name then do
      pure (.ok (← Process.inside (shellProgram m.run words)))
    else
      match (Tool.tools m.launch).lookup name with
      | some tool => do pure (.ok (← Process.inside (Tool.run name tool words)))
      | none => pure (.error .noEntry)

/-- The environment that a command has where nothing else is said. -/
def environment : List (String × String) :=
  [("HOME", "/root"), ("PATH", Process.usualDirectories)]

/-- A machine for commands within commands, down to a depth. -/
def ofDepth : Nat → Machine
  | 0 => ⟨fun _ => ShellM.fail "too many commands within commands" 2, fun _ _ => pure (.error .tooManyLinks)⟩
  | depth + 1 =>
    let m := ofDepth depth
    ⟨runWithTraps m.run m.launch, start m⟩

/-- How deep commands within commands may be. -/
def depth : Nat := 12000

/-- The machine that runs commands of rules. -/
def usual : Machine :=
  ofDepth depth

end Machine

namespace Disk

/-- Whether a text has a character that ends it for the system. -/
def hasNul (text : String) : Bool :=
  text.toList.contains '\x00'

/-- What a process has written to a buffer. -/
def writtenTo (p : Process) (buffer : Nat) : String :=
  Text.Utf8.decodeLossy (p.bufferBytes buffer)

/-- A process at its start on a disk, with an environment. -/
def startOf (d : Disk) (environment : List (String × String)) : Process :=
  Process.start d (environment.map fun (name, value) => (name, Text.spelled value))

/-- Starts a program with arguments and an environment: how it ended and what it wrote, and the disk after it. -/
def start (d : Disk) (environment : List (String × String)) (program : String) (args : List String) :
    Except String (Output × Disk) :=
  let p := d.startOf environment
  let program := Text.spelled program
  let args := args.map Text.spelled
  if (program :: args).any hasNul then .error "nul byte found in provided data"
  else
    match p.programPath program with
    | .error fault => .error fault.message
    | .ok path =>
      match Machine.usual.launch path (program :: args) p with
      | (.error fault, _) => .error fault.message
      | (.ok status, p) => .ok (⟨status, writtenTo p 0, writtenTo p 1⟩, p.disk)

/-- Runs the command of a rule in its directory, with an environment. -/
def run (environment : List (String × String)) : Runner Disk := fun invocation d =>
  let fail (cause : String) : Except StartFault Output × Disk :=
    (.error (.spawning invocation.program invocation.target cause), d)
  match d.find invocation.cwd with
  | .error fault => fail fault.message
  | .ok cwd =>
    match ({ d with cwd } : Disk).start environment invocation.program invocation.args with
    | .error cause => fail cause
    | .ok (output, after) => (.ok output, { after with cwd := d.cwd, mask := d.mask })

end Disk

end Rebuild
