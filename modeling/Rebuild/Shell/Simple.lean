import Rebuild.Shell.Job
import Rebuild.Shell.Redirection
import Rebuild.Tool.Basic

/-!
# Simple commands

The words of a simple command are expanded, its streams directed, its variables assigned, and then it is run: a command
of the shell, a function, or a program. What it changed of the variables that it assigns and of the streams lasts no
longer than it, unless it is a special command of the shell.

How a command is run, and how a program is started, are parameters of this module.
-/

namespace Rebuild.Shell

open ShellM

/-- The commands whose arguments that are assignments are not divided into fields. -/
def declarationCommands : List String :=
  ["alias", "export", "local", "readonly"]

/-! ## What a command runs -/

/-- What the words of a command ask for. -/
structure Call where
  /-- The name and the arguments. -/
  words : List String
  /-- Whether a failure ends the shell, and what the command changes lasts. -/
  isSpecial : Bool
  /-- Whether functions are passed over. -/
  skipsFunctions : Bool
  /-- Whether programs are looked up in the usual directories. -/
  isUsual : Bool
deriving DecidableEq, Repr

/-- The command that the arguments of `command` ask for, and whether it is looked up in the usual directories. -/
def commandIn : Bool → List String → Option (List String × Bool)
  | _, [] => none
  | isUsual, "--" :: rest => if rest.isEmpty then none else some (rest, isUsual)
  | isUsual, arg :: rest =>
    match arg.toList with
    | '-' :: c :: cs => if (c :: cs).all (· == 'p') then commandIn true rest else none
    | _ => some (arg :: rest, isUsual)

/-- What words ask for, after so many times `command`. -/
def Call.after (s : State) (depth : Nat) (call : Call) : Call :=
  match depth, call.words with
  | depth + 1, "command" :: args =>
    if !call.skipsFunctions && s.functions.any (·.1 == "command") then call
    else
      match commandIn call.isUsual args with
      | some (words, isUsual) => Call.after s depth ⟨words, false, true, isUsual⟩
      | none => call
  | _, _ => call

/-- What words ask for. -/
def Call.ofWords (s : State) (words : List String) : Call :=
  Call.after s words.length ⟨words, words.head?.any specialBuiltins.contains, false, false⟩

/-- Whether arguments of the command that words begin are not divided. -/
def isDeclaration (s : State) (words : List String) : Bool :=
  match (Call.ofWords s words).words with
  | name :: _ => declarationCommands.contains name && !s.functions.any (·.1 == name)
  | [] => false

/-- The wording of a text in the words of which assignments of variables come before the command. -/
def traceText (start : String) (assigned : List (String × String)) (words : List String) : String :=
  start ++ " ".intercalate (assigned.map (fun (name, value) => name ++ "=" ++ value) ++ words) ++ "\n"

/-- Gives the variables and options of a frame back what they were. -/
def restoreFrame (frame : Frame) (s : State) : State :=
  let s := frame.saved.foldl (fun s (name, before) =>
    match before with
    | some v => s.setVariable name v
    | none => s.forget name) s
  let s := { s with options := frame.options.getD s.options }
  match frame.saved.lookup "OPTIND" with
  | some before =>
    { s with optionIndex := max 1 (((before.bind Variable.value).bind String.toNat?).getD 1), optionOffset := none }
  | none => s

section Commands

variable (again : Command → ShellM Unit) (launch : Launcher)

/-! ## Expansion -/

/-- Expands the words of a command, after those that were expanded. -/
def expandCommand (expanded : List String) : List Word → ShellM (List String)
  | [] => pure expanded
  | word :: words => do
    let isApart := (assignment? word).isSome && isDeclaration (← get) expanded
    let fields ←
      match assignment? word with
      | some (name, value) =>
        if isApart then do pure [name ++ "=" ++ (← expandText (substitute again) true value)]
        else expandWord (substitute again) word
      | none => expandWord (substitute again) word
    expandCommand (expanded ++ fields) words

/-- Gives a variable a value, which programs see, for as long as the command runs. -/
def assignLocally (name value : String) : ShellM Unit := do
  let s ← get
  match s.locals with
  | frame :: frames =>
    set { s with locals := frame.keep name (s.lookup? name) :: frames }
  | [] => pure ()
  assign name value
  modify fun s => s.setVariable name { (s.lookup? name).getD ⟨none, false, false⟩ with isExported := true }

/-- Assigns variables one after the other, and tells their values. -/
def assignAll (isLocal isExported : Bool) : List (String × Word) → ShellM (List (String × String))
  | [] => pure []
  | (name, word) :: assignments => do
    let value ← expandText (substitute again) true word
    if isLocal || isExported then assignLocally name value else assign name value
    let rest ← assignAll isLocal isExported assignments
    pure ((name, value) :: rest)

/-- The text before the commands that a shell shows. -/
def traceStart : ShellM String := do
  let source := Source.ofText (((← get).valueOf? "PS4").getD "") []
  match (Reading.wordIn (Reading.substitutionList (Reading.list (source.rest.length + 2))) .document).run source with
  | .ok (word, _) =>
    let options := (← get).options
    modify fun s => { s with options := options.filter (· != 'x') }
    ensuring (expandText (substitute again) false word) fun s => { s with options }
  | .error _ => pure ""

/-- Shows a command on the stream for complaints that a process had. -/
def trace (before : Process) (assigned : List (String × String)) (words : List String) : ShellM Unit := do
  if (← get).has 'x' then
    let text := traceText (← traceStart again) assigned words
    inProcess (Process.withStream 2 (before.streams.lookup 2) (Process.sayError text))

/-! ## Programs -/

/-- The status of a shell that cannot start a program. -/
def startingStatus : SystemFault → Nat
  | .noEntry | .notDirectory | .nameTooLong | .tooManyLinks => 127
  | _ => 126

/-- Starts the program at a path; a file that is no program is run as a script. -/
def start (path : String) (words : List String) : ShellM (Except SystemFault ExitStatus) := do
  let environment := (← get).environment
  inProcess (Process.inside do
    modify fun p => { p with environment }
    match ← launch path words with
    | .error .notProgram => launch "/bin/sh" ("/bin/sh" :: path :: words.drop 1)
    | result => pure result)

/-- The path of the program with a name. A name that was looked up in the usual way is remembered. -/
def programPath (isUsual : Bool) (name : String) : ShellM (Except SystemFault String) := do
  let s ← get
  if name.toList.contains '/' then pure (.ok name)
  else
    let directories := if isUsual then none else s.valueOf? "PATH"
    let found := Process.search s.process.disk (directories.getD Process.usualDirectories) name
    if !isUsual && found.toOption.isSome && !s.known.contains name then set { s with known := s.known ++ [name] }
    pure found

/-- Runs a program. -/
def callProgram (call : Call) : ShellM Unit := do
  makeRoom again
  let name := call.words.headD ""
  match ← programPath call.isUsual name with
  | .error fault => do
    warn s!"{name}: {State.startingText fault}"
    finish 127
  | .ok path =>
    match ← start launch path call.words with
    | .ok status => do
      settle again true
      conclude status
    | .error fault => do
      warn s!"{name}: {State.startingText fault}"
      finish (startingStatus fault)

/-! ## Commands that run others -/

/-- Runs its arguments as a text. -/
def evaluate : Builtin := fun args => do
  match args with
  | [] => finish 0
  | args => runText again false (" ".intercalate args)

/-- The path of a script that is read in: one with a slash, or the first in the directories of programs. -/
def scriptPath (name : String) : ShellM String := do
  let s ← get
  let directories := (s.valueOf? "PATH").getD Process.usualDirectories
  if name.toList.contains '/' then pure name
  else
    match (Process.pathsIn directories name).find? (Direction.isKept s.process.disk) with
    | some path => pure path
    | none => fail s!"{name}: not found" 2

/-- The text of a file; a directory has none. -/
def textOf? (path : String) : ShellM (Except SystemFault String) := do
  pure (match ← inProcess (Process.takeFile path) with
    | .ok bytes => .ok (Text.ofBytes bytes)
    | .error .isDirectory => .ok ""
    | .error fault => .error fault)

/-- Reads in a script. -/
def readIn : Builtin := fun args => do
  match args with
  | [] => finish 0
  | name :: _ =>
    let path ← scriptPath name
    match ← textOf? path with
    | .error fault => fail s!"cannot open {path}: {State.readingText fault}" 2
    | .ok text =>
      modify fun s => { s with command := some path }
      testing false fun s =>
        match runText again true text s with
        | (.error .return, s) => (.ok (), s)
        | result => result

/-- Goes on as another program, if there are arguments. -/
def replace : Builtin := fun args => do
  match (← Builtin.options "" args).2 with
  | [] => finish 0
  | name :: args =>
    let result ← match ← programPath false name with
      | .ok path => start launch path (name :: args)
      | .error fault => pure (.error fault)
    match result with
    | .ok (.exited code) => do
      modify fun s => { s with traps := [] }
      ShellM.exit code.toNat
    | .ok (.terminated signal) => throw (.killed (signal.getD 0).toNat)
    | .error fault => do
      warn s!"{name}: {State.startingText fault}"
      ShellM.exit (startingStatus fault)

/-- The commands of the shell that run others. -/
def runningBuiltins : List (String × Builtin) :=
  [(".", readIn again), ("eval", evaluate again), ("exec", replace launch)] ++ jobBuiltins again

/-- The names of all commands of the shell. -/
def builtinNames : List String :=
  ["command", "hash", "type", ".", "eval", "exec", "bg", "fg", "jobs", "kill", "wait"] ++ builtins.map Prod.fst

/-- Tells what a name stands for, in a sentence or in a word. -/
def describe (inSentence isUsual : Bool) (name : String) : ShellM Nat := do
  let s ← get
  let tell (sentence word : String) : ShellM Nat := do
    say (if inSentence then s!"{name} is {sentence}\n" else word ++ "\n")
    pure 0
  if keywords.contains name then tell "a shell keyword" name
  else
    match s.aliases.lookup name with
    | some text => tell s!"an alias for {text}" (s!"alias {name}=" ++ Builtin.quoted text)
    | none =>
      if specialBuiltins.contains name then tell "a special shell builtin" name
      else if s.functions.any (·.1 == name) then tell "a shell function" name
      else if builtinNames.contains name then tell "a shell builtin" name
      else
        match ← programPath isUsual name with
        | .ok path =>
          if s.process.disk.isThere path then
            tell (if s.known.contains name then s!"a tracked alias for {path}" else path) path
          else missing
        | .error _ => missing
where
  /-- Tells that a name stands for nothing. -/
  missing : ShellM Nat := do
    if inSentence then say s!"{name}: not found\n"
    pure 127

/-- The place of a name among those that were looked up. -/
def knownPlace (name : String) : Nat :=
  let cs := (Text.byteChars name).map Char.toNat
  cs.foldl (· + ·) (16 * cs.headD 0) % 31

/-- Looks up names, forgets those that were looked up, or tells them. -/
def lookUp : Builtin := fun args => do
  let (flags, args) ← Builtin.options "r" args
  if !flags.isEmpty then
    modify fun s => { s with known := [] }
    finish 0
  else if args.isEmpty then
    for name in (← get).known.mergeSort (fun a b => knownPlace a ≤ knownPlace b) do
      match ← programPath false name with
      | .ok path => say (path ++ "\n")
      | .error _ => pure ()
    finish 0
  else
    let mut status := 0
    for name in args do
      let s ← get
      unless s.functions.any (·.1 == name) || builtinNames.contains name do
        match ← programPath false name with
        | .ok _ => pure ()
        | .error _ =>
          warn s!"{name}: not found"
          status := 1
    finish status

/-- Tells what names stand for. -/
def type : Builtin := fun args => do
  let mut status := 0
  for name in args do
    status := max status (← describe true false name)
  finish status

/-- Tells what a name stands for, if it is asked to. -/
def describeCommand : Builtin := fun args => do
  let (flags, args) ← Builtin.options "pvV" args
  let letters := flags.map Prod.fst
  match args with
  | name :: _ =>
    if letters.contains 'v' || letters.contains 'V' then
      finish (← describe (letters.contains 'V') (letters.contains 'p') name)
    else finish 0
  | [] => finish 0

/-! ## Running -/

/-- Runs a command of the shell. -/
def callBuiltin (run : Builtin) (name : String) (args : List String) : ShellM Unit := do
  let before := (← get).command
  modify fun s => { s with command := some name }
  ensuring (run args) fun s => { s with command := before }

/-- How many functions may call each other. -/
def maxCalls : Nat := 1000

/-- Runs a function. -/
def callFunction (body : Command) (args : List String) : ShellM Unit := fun s =>
  if maxCalls ≤ s.calls then fail s!"Maximum function recursion depth ({maxCalls}) reached" 2 s
  else
    let (result, t) :=
      again body { s with args, loops := 0, optionIndex := 1, optionOffset := none, calls := s.calls + 1 }
    let t := { t with args := s.args, loops := s.loops, optionIndex := s.optionIndex, optionOffset := s.optionOffset
                      calls := s.calls }
    match result with
    | .error .return => (.ok (), t)
    | result => (result, t)

/-- Runs what words ask for. -/
def callNamed (call : Call) : ShellM Unit := do
  let s ← get
  match call.words with
  | [] => finish s.substitutionStatus
  | name :: args =>
    let function := if call.skipsFunctions || specialBuiltins.contains name then none else s.functions.lookup name
    match function with
    | some body => callFunction again body args
    | none =>
      let others := [("command", describeCommand), ("hash", lookUp), ("type", type)]
      match (runningBuiltins again launch ++ others ++ builtins).lookup name with
      | some run => callBuiltin run name args
      | none => callProgram again launch call

/-- Runs what words ask for; unless that is special, what is wrong with it does not end the shell. -/
def callSafely (call : Call) : ShellM Unit := fun s =>
  match callNamed again launch call s with
  | (.error .fault, t) =>
    let isBuiltin := call.words.head?.any builtinNames.contains && !call.isSpecial
    let isFunction := !call.skipsFunctions && s.functions.any fun f => call.words.head? == some f.1
    if isBuiltin && !isFunction then (.ok (), t) else (.error .fault, t)
  | result => result

/-- Runs a simple command. -/
def runSimple (line : Nat) (assignments : List (String × Word)) (words : List Word) (redirections : List Redirection) :
    ShellM Unit := do
  modify fun s => { s with line, substitutionStatus := 0 }
  let fields ← expandCommand again [] words
  let call := Call.ofWords (← get) fields
  let directions ← expandTargets (substitute again) redirections
  let before := (← get).process
  let replacesStreams := call.words == ["exec"]
  let isLocal := !fields.isEmpty && !call.isSpecial
  if isLocal then modify fun s => { s with locals := ⟨[], none⟩ :: s.locals }
  let run : ShellM Unit := do
    if ← direct (substitute again) directions then
      let assigned ← assignAll again isLocal (call.words.head? == some "exec" && call.words.length > 1) assignments
      trace again before assigned fields
      callSafely again launch call
    else if call.isSpecial then throw .fault
  fun s =>
    let (result, t) := run s
    let t := if replacesStreams then t else restoreStreams directions before t
    let isEnding := match result with
      | .error .exit | .error .fault => true
      | _ => false
    match isLocal && !isEnding, t.locals with
    | true, frame :: frames =>
      let known := if frame.saved.any (·.1 == "PATH") then [] else t.known
      let t := restoreFrame frame { t with locals := frames, known }
      match result, frame.saved.find? fun v => !isName v.1 with
      | .ok (), some (name, _) => fail s!"{name}: bad variable name" 2 t
      | result, _ => (result, t)
    | _, _ => (result, t)

end Commands

end Rebuild.Shell
