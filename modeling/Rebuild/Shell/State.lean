import Rebuild.Shell.Arithmetic
import Rebuild.Command
import Rebuild.Shell.Reader
import Rebuild.Signal
import Rebuild.Tool.Basic

/-!
# The state of a shell

A shell is a process with arguments, variables, functions and traps, and the status of the last command. Its commands
are run in `ShellM`: a command that makes the shell leave a loop, return or end stops those that follow it.

A process that the shell does not wait for is a job. One that has to wait itself is kept asleep with all that it needs
to be run later, when that much time has passed.
-/

namespace Rebuild.Shell

/-- A variable: its value, if it is set, and whether programs see it and it may be changed. -/
structure Variable where
  value : Option String
  isExported : Bool
  isReadOnly : Bool
deriving DecidableEq, Repr

/-- What a function puts back when it ends: what the variables were that are its own, and if they are its own, what the
options were. -/
structure Frame where
  saved : List (String × Option Variable)
  options : Option (List Char)
deriving DecidableEq, Repr

/-- Keeps what a variable was, unless something was kept for it before. -/
def Frame.keep (frame : Frame) (name : String) (before : Option Variable) : Frame :=
  if frame.saved.any (·.1 == name) then frame
  else { frame with saved := (name, before) :: frame.saved }

/-- The letters and names of the options of a shell. -/
def optionNames : List (Char × String) :=
  [('e', "errexit"), ('f', "noglob"), ('I', "ignoreeof"), ('i', "interactive"), ('m', "monitor"), ('n', "noexec"),
   ('s', "stdin"), ('x', "xtrace"), ('v', "verbose"), ('V', "vi"), ('E', "emacs"), ('C', "noclobber"),
   ('a', "allexport"), ('b', "notify"), ('u', "nounset"), ('p', "privileged"), ('L', "nolog"), ('D', "debug")]

/-- A shell without its jobs. -/
structure Core where
  process : Process
  /-- The name that the shell has in its complaints. -/
  name : String
  args : List String
  bindings : List (String × Variable)
  /-- For each function that runs, what it puts back. -/
  locals : List Frame
  functions : List (String × Command)
  aliases : List (String × String)
  /-- The names of programs that were looked up, in this order. -/
  known : List String
  /-- The commands to be run at signals; that with the number zero is run at the end. -/
  traps : List (Nat × String)
  /-- The signals that arrived and have a trap, with the times of their arrival. -/
  pending : List (Nat × Time)
  /-- The signals that will arrive, with their times. -/
  incoming : List (Nat × Time)
  /-- The letters of the options that are on. -/
  options : List Char
  status : Nat
  /-- The status of the last command substitution of the command that runs. -/
  substitutionStatus : Nat
  /-- The line of the command that runs. -/
  line : Nat
  /-- The line up to which the script has been read. -/
  readLine : Nat
  /-- The command of the shell that runs. -/
  command : Option String
  /-- How many loops the command that runs is in. -/
  loops : Nat
  /-- Whether the command that runs is a condition, which may fail. -/
  isTested : Bool
  /-- Whether the shell is one that another one split off. -/
  isSubshell : Bool
  /-- How many functions call each other. -/
  calls : Nat
  /-- The number of the argument in which options are looked for next, from one. -/
  optionIndex : Nat
  /-- How far the argument before it is read, if there may be more options in it. -/
  optionOffset : Option Nat
  /-- The status with which the shell was told to end. -/
  exitCode : Option Nat
  /-- How many jobs there have been. -/
  started : Nat
  /-- The number of the last job. -/
  lastJob : Option Nat

/-- How far a job is. -/
inductive Progress where
  /-- It waits up to a time at least. It began at a time with some commands in a shell, and has changed nothing yet. -/
  | asleep (wakes since : Time) (body : Command) (shell : Core)
  /-- It has ended; whether the shell has noticed that. -/
  | ended (status : ExitStatus) (isNoticed : Bool)

/-- A process that nobody has to wait for. -/
structure Job where
  number : Nat
  /-- The number by which the shell calls it. -/
  place : Nat
  progress : Progress
  /-- Whether it is one of another shell, which this one only knows by its number. -/
  isForeign : Bool
  /-- Whether it was waited for. -/
  isWaited : Bool
  /-- The time up to which its signals have reached the shell. -/
  heard : Time

/-- Whether a job has not ended. -/
def Job.isAsleep (j : Job) : Bool :=
  match j.progress with
  | .asleep _ _ _ _ => true
  | .ended _ _ => false

/-- Whether a job has ended, and the shell has noticed. -/
def Job.isGone (j : Job) : Bool :=
  match j.progress with
  | .ended _ isNoticed => isNoticed
  | .asleep _ _ _ _ => false

/-- A job of which the shell has noticed that it has ended, if it has. -/
def Job.noticed (j : Job) : Job :=
  match j.progress with
  | .ended status _ => if j.isForeign then j else { j with progress := .ended status true }
  | .asleep _ _ _ _ => j

/-- The state of a shell. -/
structure State extends Core where
  /-- The jobs, the last first. -/
  jobs : List Job

/-- Why the commands that follow are not run. -/
inductive Stop where
  /-- The shell has ended. -/
  | exit
  /-- Something is wrong that ends the shell, unless a command of the shell complained of it. -/
  | fault
  /-- So many loops are left; the last of them may go on with its next round. -/
  | leave (goOn : Bool) (levels : Nat)
  /-- A function or a script that was read in returns. -/
  | return
  /-- The process was ended by a signal. -/
  | killed (signal : Nat)
deriving DecidableEq, Repr

/-- What is done in a shell. -/
abbrev ShellM := ExceptT Stop (StateM State)

namespace State

/-- The process number that a shell tells. -/
def processNumber : Nat := 4711

/-- A shell at its start. -/
def start (p : Process) (name : String) (args : List String) : State where
  process := p
  name := name
  args := args
  bindings :=
    [("IFS", ⟨some " \t\n", false, false⟩), ("OPTIND", ⟨some "1", false, false⟩), ("PS1", ⟨some "# ", false, false⟩),
      ("PS2", ⟨some "> ", false, false⟩), ("PS4", ⟨some "+ ", false, false⟩),
      ("PPID", ⟨some (toString (processNumber - 1)), false, false⟩)] ++
    (if p.environment.any (·.1 == "PATH") then [] else [("PATH", ⟨some Process.usualDirectories, true, false⟩)]) ++
    ((p.environment.filter fun v =>
        !(["IFS", "OPTIND", "PS1", "PS2", "PS4", "PPID", "PWD"].contains v.1) && isName v.1).map
      fun (name, value) => (name, ⟨some value, true, false⟩)) ++
    [("PWD", ⟨some (Disk.pathOf p.disk.cwd), true, false⟩)]
  locals := []
  functions := []
  aliases := []
  known := []
  traps := []
  pending := []
  incoming := []
  options := []
  status := 0
  substitutionStatus := 0
  line := 0
  readLine := 0
  command := none
  loops := 0
  isTested := false
  isSubshell := false
  calls := 0
  optionIndex := 1
  optionOffset := none
  exitCode := none
  started := 0
  lastJob := none
  jobs := []

/-- Whether an option is on. -/
def has (s : State) (letter : Char) : Bool :=
  s.options.contains letter

/-! ## Variables -/

/-- A variable, if there is one with this name. -/
def lookup? (s : State) (name : String) : Option Variable :=
  s.bindings.lookup name

/-- The value of a variable, if it is set. -/
def valueOf? (s : State) (name : String) : Option String :=
  (s.lookup? name).bind Variable.value

/-- Puts a variable in the place of the one with its name, or adds it. -/
def setVariable (s : State) (name : String) (v : Variable) : State :=
  if s.bindings.any (·.1 == name) then
    { s with bindings := s.bindings.map fun old => if old.1 == name then (name, v) else old }
  else { s with bindings := s.bindings ++ [(name, v)] }

/-- Forgets a variable. -/
def forget (s : State) (name : String) : State :=
  { s with bindings := s.bindings.filter (·.1 != name) }

/-- The separators of fields, each a byte. -/
def separators (s : State) : List Char :=
  Text.strayChars ((s.valueOf? "IFS").getD " \t\n")

/-- Whether a separator of fields may be a part of a character. -/
def hasByteSeparators (s : State) : Bool :=
  s.separators.any Text.isStray

/-- The byte between arguments that are joined. -/
def joiner (s : State) : String :=
  match s.valueOf? "IFS" with
  | none => " "
  | some separators => Text.ofByteChars ((Text.byteChars separators).take 1)

/-- The value of a parameter, if it is set. -/
def value? (s : State) (parameter : String) : Option String :=
  match parameter with
  | "?" => some (toString s.status)
  | "#" => some (toString s.args.length)
  | "$" => some (toString processNumber)
  | "!" => s.lastJob.map toString
  | "-" => some (String.ofList ((optionNames.map Prod.fst).reverse.filter s.has))
  | "0" => some s.name
  | "@" | "*" => some (s.joiner.intercalate s.args)
  | _ =>
    match parameter.toNat? with
    | some 0 => some s.name
    | some n => s.args[n - 1]?
    | none => s.valueOf? parameter

/-- Where a variable stands among those that programs see: variables with the same place keep their order. -/
def placeOf (name : String) : Nat :=
  let codes := (Text.byteChars name).map Char.toNat
  codes.foldl (· + ·) (16 * codes.headD 0) % 39

/-- The variables that programs see, with their values. -/
def environment (s : State) : List (String × String) :=
  (s.bindings.mergeSort fun a b => placeOf a.1 ≤ placeOf b.1).filterMap fun (name, v) =>
    if v.isExported then v.value.map (name, ·) else none

/-! ## Files -/

/-- The wording of a fault in opening a file to read it. -/
def readingText : SystemFault → String
  | .noEntry | .notDirectory => "No such file"
  | fault => fault.text

/-- The wording of a fault in making a file. -/
def makingText : SystemFault → String
  | .noEntry | .notDirectory => "Directory nonexistent"
  | fault => fault.text

/-- The wording of a fault in starting a program. -/
def startingText : SystemFault → String
  | .noEntry | .notDirectory => "not found"
  | fault => fault.text

end State

/-! ## What is done in a shell -/

namespace ShellM

/-- Does something in the process of the shell. -/
def inProcess (action : ProcessM α) : ShellM α :=
  ExceptT.lift fun s =>
    let (a, process) := action s.process
    (a, { s with process })

/-- The status of the last command. -/
def status : ShellM Nat := do
  pure (← get).status

/-- Ends a command with a status. -/
def finish (status : Nat) : ShellM Unit :=
  modify fun s => { s with status }

/-- Writes bytes to the output. -/
def put (bytes : ByteArray) : ShellM (Except SystemFault Unit) :=
  inProcess (Process.putBytes bytes)

/-- Writes a text to the output. -/
def say (text : String) : ShellM Unit := do
  let _ ← put (Text.toBytes text)

/-- Writes a text to the error stream. -/
def sayError (text : String) : ShellM Unit :=
  inProcess (Process.sayError text)

/-- Complains, naming the script, the line and the command of the shell that runs. -/
def warn (text : String) : ShellM Unit := do
  let s ← get
  let command := match s.command with
    | some name => name ++ ": "
    | none => ""
  sayError s!"{s.name}: {s.line}: {command}{text}\n"

/-- The time. -/
def now : ShellM Time := do
  pure (← get).process.disk.clock

/-- Complains and stops. -/
def fail (text : String) (status : Nat) : ShellM α := do
  warn text
  finish status
  throw .fault

/-- Complains of what cannot be read, at the line up to which the script has been read, and stops. -/
def failReading (message : String) : ShellM α := do
  modify fun s => { s with line := s.readLine }
  fail s!"Syntax error: {message}" 2

/-- Ends the shell with a code. -/
def exit (code : Nat) : ShellM α := do
  modify fun s => { s with status := code % 256 }
  throw .exit

/-- Undoes something after an action, however that ends. -/
def ensuring (action : ShellM α) (after : State → State) : ShellM α := fun s =>
  let (a, s) := action s
  (a, after s)

/-- Ends the shell if the last command failed and the shell is to end then. -/
def endIfFailed : ShellM Unit := do
  let s ← get
  if s.status != 0 && s.has 'e' && !s.isTested then throw .exit

/-- Lets options be looked for in the argument with a number. -/
def resetOptions (value : String) : ShellM Unit := do
  if value.isEmpty || !value.toList.all Char.isDigit then fail s!"Illegal number: {value}" 2
  modify fun s => { s with optionIndex := max 1 (value.toNat?.getD 1), optionOffset := none }

/-- Gives a variable a value. -/
def assign (name value : String) : ShellM Unit := do
  let s ← get
  match s.lookup? name with
  | some v =>
    if v.isReadOnly then fail s!"{name}: is read only" 2
    else set (s.setVariable name { v with value := some value, isExported := v.isExported || s.has 'a' })
  | none => set (s.setVariable name ⟨some value, s.has 'a', false⟩)
  if name == "OPTIND" then resetOptions value
  if name == "PATH" then
    modify fun s => { s with known := [] }

end ShellM

end Rebuild.Shell
