import Rebuild.Shell.Simple

/-!
# Running commands

`runCommand` says what a command does in a shell, `shellProgram` what a shell does with its arguments as a program. How
the commands within a command are run, and how a program is started, are parameters of this module.
-/

namespace Rebuild.Shell

open ShellM

/-- How often the body of a loop is run at most. -/
def maxRounds : Nat := 10000000

/-- How a round of a loop ended. -/
inductive RoundEnd where
  | completed
  /-- The next round is asked for. -/
  | cut
  /-- No round is wanted any more. -/
  | over
deriving DecidableEq, Repr

/-- The commands that are joined in a sequence. -/
def Command.steps (after : List Command) : Command → List Command
  | .sequence first second => first.steps (second :: after)
  | command => command :: after

/-- Notes the line of a command. -/
def atLine (line : Nat) : ShellM Unit :=
  modify fun s => { s with line }

section Commands

variable (again : Command → ShellM Unit) (launch : Launcher)

/-! ## Loops -/

/-- Does something within one more loop. -/
def inLoop (action : ShellM Unit) : ShellM Unit := do
  let loops := (← get).loops
  modify fun s => { s with loops := loops + 1 }
  ensuring action fun s => { s with loops }

/-- Runs a round of a loop, or a part of it. -/
def runRound (action : ShellM Unit) : ShellM RoundEnd := fun s =>
  match action s with
  | (.ok (), s) => (.ok .completed, s)
  | (.error (.leave goOn levels), s) =>
    if levels ≤ 1 then (.ok (if goOn then .cut else .over), s) else (.error (.leave goOn (levels - 1)), s)
  | (.error stop, s) => (.error stop, s)

/-- Goes through a loop with a condition once, after a round that ended with a status; tells the status of this round if
the loop goes on. -/
def repeatOnce (untilSuccess : Bool) (condition body : Command) (before : Nat) : ShellM (Option Nat) := do
  passRound
  match ← runRound (testing true (again condition)) with
  | .cut => pure (some before)
  | .over => do
    finish before
    pure none
  | .completed =>
    if ((← status) == 0) == untilSuccess then
      finish before
      pure none
    else
      match ← runRound (again body) with
      | .over => pure none
      | _ => do pure (some (← status))

/-- Runs a command for the first of the fields that are left, which is the value of a variable. -/
def runForNext (name : String) (body : Command) : List String → ShellM (Option (List String))
  | [] => pure none
  | field :: fields => do
    passRound
    assign name field
    match ← runRound (again body) with
    | .over => pure none
    | _ => pure (some fields)

/-- Runs a loop over words. -/
def runForEach (line : Nat) (name : String) (words : Option (List Word)) (body : Command) : ShellM Unit := do
  atLine line
  let fields ← match words with
    | some words => expandWords (substitute again) words
    | none => do pure (← get).args
  if fields.isEmpty then finish 0
  else inLoop (repeatFrom (runForNext again name body) (fields.length + 1) fields)

/-! ## Choices -/

/-- Whether one of some patterns matches a text. -/
def anyMatches (text : String) : List Word → ShellM Bool
  | [] => pure false
  | pattern :: patterns => do
    if matchesPattern (← expandPattern (substitute again) pattern) (Text.byteChars text) then pure true
    else anyMatches text patterns

/-- Runs the first arm that has a pattern which matches a text. -/
def runArm (text : String) : List (List Word × Command) → ShellM Unit
  | [] => finish 0
  | (patterns, body) :: arms => do
    if ← anyMatches again text patterns then
      match body with
      | .skip => finish 0
      | body => again body
    else runArm text arms

/-! ## Commands in subshells -/

/-- Runs the commands of a pipeline one after the other, each with what the one before it wrote. A pipe has room for so
many bytes. Each begins with the same status. -/
def runPipelineWithin (room status : Nat) (input : Option Nat) : List Command → ShellM Unit
  | [] => pure ()
  | command :: commands => do
    let before := (← get).process
    let output ←
      if commands.isEmpty then pure (before.streams.lookup 1)
      else do
        let (file, process) := before.openBuffer .empty (some room)
        modify fun s => { s with process }
        pure (some file)
    modify fun s => { s with process := (s.process.direct 0 input).direct 1 output, status }
    let ended ← ensuring (inSubshell again (!commands.isEmpty) (again command)) fun s =>
      { s with process := { s.process with streams := before.streams } }
    conclude ended
    runPipelineWithin room status (if commands.isEmpty then none else output) commands

/-- How much room there is in pipes: first little, then more if somebody is starved. -/
def pipeRooms : List Nat :=
  [4096, 1048576, 16777216]

/-- Whether a channel is a pipe that was opened after so many buffers, or has no end. -/
def isLaterPipe (buffers : Nat) : Channel → Bool
  | .buffer number => buffers ≤ number
  | .endless _ => true
  | _ => false

/-- Runs the commands of a pipeline. If somebody is starved, that did not count, and they are run with more room in the
pipes. -/
def runPipeline (commands : List Command) (room : Nat) (rooms : List Nat) : ShellM Unit := fun s =>
  let isOwn := isLaterPipe s.process.buffers.size
  let input := s.process.streams.lookup 0
  let (result, t) :=
    runPipelineWithin again room s.status input commands { s with process := { s.process with patience := room } }
  match t.process.starved.any isOwn, rooms with
  | true, room :: rooms => runPipeline commands room rooms s
  | _, _ =>
    let starved := t.process.starved.filter fun channel => !isOwn channel
    (result, { t with process := { t.process with patience := s.process.patience, starved } })

/-- Runs a command in a subshell whose streams are redirected. -/
def runSubshell (line : Nat) (body : Command) (redirections : List Redirection) : ShellM Unit := do
  atLine line
  let directions ← expandTargets (substitute again) redirections
  let status ← inSubshell again false do
    if ← direct (substitute again) directions then again body else throw .fault
  settle again true
  conclude status

/-! ## All commands -/

/-- What a command does. -/
def runCommand (command : Command) : ShellM Unit := do
  match command with
  | .skip => pure ()
  | .simple line assignments words redirections => do
    runSimple again launch line assignments words redirections
    endIfFailed
  | .sequence first second =>
    for step in first.steps [second] do
      again step
  | .both first second => do
    testing true (again first)
    if (← status) == 0 then again second
  | .either first second => do
    testing true (again first)
    if (← status) != 0 then again second
  | .negation command => do
    testing true (again command)
    finish (if (← status) == 0 then 1 else 0)
  | .pipeline commands => do
    runPipeline again commands (pipeRooms.headD 0) (pipeRooms.drop 1)
    settle again true
    endIfFailed
  | .subshell line body redirections => do
    runSubshell again line body redirections
    endIfFailed
  | .background line body => do
    atLine line
    runBackground again body
  | .redirected line body redirections => do
    atLine line
    directed (substitute again) (← expandTargets (substitute again) redirections) (again body)
  | .ifElse condition yes no => do
    testing true (again condition)
    if (← status) == 0 then again yes
    else
      match no with
      | .skip => finish 0
      | no => again no
  | .loop untilSuccess condition body => inLoop (repeatFrom (repeatOnce again untilSuccess condition body) maxRounds 0)
  | .forEach line name words body => runForEach again line name words body
  | .select line subject arms => do
    atLine line
    runArm again (← expandText (substitute again) false subject) arms
  | .define name body => do
    modify fun s => { s with functions := (name, body) :: s.functions.filter (·.1 != name) }
    finish 0

/-- What a command does, and what is done for the signals that arrived. -/
def runWithTraps (command : Command) : ShellM Unit := do
  if !(← get).has 'n' then
    runCommand again launch command
    runTraps again

/-! ## The program -/

/-- What a shell is told to run. -/
inductive ScriptPlace where
  /-- The first argument. -/
  | argument
  /-- The file that the first argument names. -/
  | file
  | input
deriving DecidableEq, Repr

/-- Sets the options that letters stand for; tells whether a command follows as an argument, and what is left of the
arguments. -/
def readLetters (isOn hasCommand : Bool) (args : List String) : List Char → ShellM (Bool × List String)
  | [] => pure (hasCommand, args)
  | 'c' :: letters => readLetters isOn true args letters
  | 'l' :: letters => readLetters isOn hasCommand args letters
  | 'o' :: letters =>
    match args with
    | [] => readLetters isOn hasCommand args letters
    | name :: args =>
      match optionNames.find? (·.2 == name) with
      | some (letter, _) => do
        Builtin.setOption isOn letter
        readLetters isOn hasCommand args letters
      | none => fail s!"Illegal option -o {name}" 2
  | letter :: letters => do
    Builtin.setOption isOn letter
    readLetters isOn hasCommand args letters

/-- Sets the options at the beginning of the arguments; at most so many arguments are read. -/
def readOptions (limit : Nat) (hasCommand : Bool) (args : List String) : ShellM (Bool × List String) := do
  match limit, args with
  | limit + 1, arg :: rest =>
    match arg.toList with
    | ['-'] | ['-', '-'] => pure (hasCommand, rest)
    | '-' :: letters => do
      let (hasCommand, rest) ← readLetters true hasCommand rest letters
      readOptions limit hasCommand rest
    | '+' :: letters => do
      let (hasCommand, rest) ← readLetters false hasCommand rest letters
      readOptions limit hasCommand rest
    | _ => pure (hasCommand, args)
  | _, _ => pure (hasCommand, args)

/-- Runs what the arguments of a shell ask for. -/
def runArguments (args : List String) : ShellM Unit := do
  let (hasCommand, args) ← readOptions args.length false args
  match hasCommand, args with
  | true, [] => fail "-c requires an argument" 2
  | true, command :: rest => do
    modify fun s => { s with name := rest.headD s.name, args := rest.drop 1 }
    runText again false command
  | false, args =>
    if args.isEmpty || (← get).has 's' then
      modify fun s => { s with args, options := 's' :: s.options.filter (· != 's') }
      let bytes ← inProcess (Process.takeAll 0)
      runText again true (Text.ofBytes (bytes.toOption.getD .empty))
    else
      let path := args.headD ""
      match ← textOf? path with
      | .error fault => fail s!"cannot open {path}: {State.readingText fault}" 2
      | .ok text => do
        modify fun s => { s with name := path, args := args.drop 1 }
        runText again true text

/-- Whether a command keeps the output and the error stream of the shell to itself. -/
def Command.keepsStreams : Command → Bool
  | .simple _ _ _ redirections | .redirected _ _ redirections | .subshell _ _ redirections =>
    let streams := redirections.map fun
      | .file stream _ _ _ | .duplicate stream _ | .document stream _ => stream
    !(streams.contains 1 && streams.contains 2)
  | _ => true

/-- Whether somebody waits for the end of a job: one who reads what it writes. -/
def isAwaited (job : Job) : Bool :=
  match job.progress with
  | .asleep _ _ body core =>
    body.keepsStreams && [1, 2].any fun stream =>
      match core.process.file? stream with
      | some (_, file) =>
        match file.channel with
        | .buffer _ => true
        | _ => false
      | none => false
  | .ended _ _ => false

/-- A shell as a program, with its name and arguments. -/
def shellProgram (words : List String) : ProcessM ExitStatus := fun p =>
  let (status, s) := ended again (runArguments again (words.drop 1)) (.start p (words.headD "sh") [])
  let (_, t) := finishJobs again { s with jobs := s.jobs.filter isAwaited }
  (status, if s.process.isStopped then s.process else t.process)

end Commands

end Rebuild.Shell
