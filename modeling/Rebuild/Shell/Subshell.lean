import Rebuild.Command
import Rebuild.Shell.Builtin

/-!
# Shells within shells

A text is run command by command, each read only when those before it have been run. A subshell has the state of the
shell that it splits off, and leaves nothing behind there but what it did to the disk and wrote; a command substitution
is the text that one wrote. At its end a shell runs the commands that it has for this.

How a command is run is a parameter of this module.
-/

namespace Rebuild.Shell

namespace ShellM

/-- Takes a step again and again while it tells a state to go on with, at most so many times. -/
def repeatFrom (step : σ → ShellM (Option σ)) : Nat → σ → ShellM Unit
  | 0, _ => fail "too many rounds" 2
  | rounds + 1, state => fun s =>
    match step state s with
    | (.ok (some state), s) => repeatFrom step rounds state s
    | (.ok none, s) => (.ok (), s)
    | (.error stop, s) => (.error stop, s)

/-- How many nanoseconds a round of a loop takes. -/
def roundTime : Nat := 10000

/-- Ends the shell if its process is stopped. -/
def stopIfDue : ShellM Unit := do
  if (← get).process.isStopped then throw (.killed 15)

/-- Lets the time of a round of a loop pass. -/
def passRound : ShellM Unit := do
  let _ ← inProcess (Process.pass roundTime)
  stopIfDue

/-- Does something in a condition, where a failure does not end the shell, or elsewhere. -/
def testing (isTested : Bool) (action : ShellM α) : ShellM α := do
  let before := (← get).isTested
  modify fun s => { s with isTested }
  ensuring action fun s => { s with isTested := before }

/-- The number that stands for how a process ended. -/
def codeOf : ExitStatus → Nat
  | .exited code => code.toNat
  | .terminated signal => 128 + (signal.getD 0).toNat

/-- Tells the signal that ended a process. -/
def tellSignal : ExitStatus → ShellM Unit
  | .exited _ => pure ()
  | .terminated signal =>
    let signal := (signal.getD 0).toNat
    if signal == 2 || signal == Signal.brokenPipe then pure () else sayError (Signal.text signal ++ "\n")

/-- Ends a command with the status of a process, and tells the signal that ended it. -/
def conclude (status : ExitStatus) : ShellM Unit := do
  stopIfDue
  tellSignal status
  finish (codeOf status)

end ShellM

open ShellM

section Commands

variable (again : Command → ShellM Unit)

/-! ## Texts -/

/-- Runs the next command of a text, and tells what follows it and whether any command was run. -/
def runNext (showsText : Bool) (state : Source × Bool) : ShellM (Option (Source × Bool)) := do
  let (source, hasRun) := state
  match ({ source with aliases := (← get).aliases } : Source).next? with
  | .error fault =>
    modify fun s => { s with readLine := fault.line }
    failReading fault.message
  | .ok (none, _) =>
    if !hasRun then finish 0
    pure none
  | .ok (some command, after) =>
    modify fun s => { s with readLine := after.line }
    if showsText && (← get).has 'v' then
      sayError (String.ofList (source.rest.take (source.rest.length - after.rest.length)))
    match command with
    | .skip => pure (some (after, hasRun))
    | command => do
      again command
      pure (some (after, true))

/-- Runs the commands of a text. If there are none, that is a success. -/
def runText (showsText : Bool) (text : String) : ShellM Unit := do
  let outer := (← get).readLine
  ensuring (repeatFrom (runNext again showsText) (text.length + 2) (.ofText text [], false)) fun s =>
    { s with readLine := outer }

/-! ## Traps -/

/-- Does for signals what the shell is to do then. The status is left as it was. -/
def answerSignals (signals : List Nat) : ShellM Unit := do
  let s ← get
  set { s with exitCode := some (s.exitCode.getD s.status) }
  for signal in signals.eraseDups.mergeSort do
    match s.traps.lookup signal with
    | some text => do
      testing false (runText again false text)
      finish s.status
    | none => if Signal.isHarmless signal then pure () else throw (.killed signal)
  modify fun t => { t with exitCode := s.exitCode }

/-- Runs the commands for the signals that arrived. -/
def runTraps : ShellM Unit := do
  let s ← get
  let due := s.incoming.filter (·.2 ≤ s.process.disk.clock)
  if !due.isEmpty then
    set { s with incoming := s.incoming.filter (s.process.disk.clock < ·.2) }
    answerSignals again (due.map Prod.fst)
  if !s.isSubshell && !s.pending.isEmpty then
    modify fun t => { t with pending := [] }
    answerSignals again (s.pending.map Prod.fst)

/-- How a shell ends after what it does, and its state then: the commands that it has for its end are run. What was read
of a pipe does not count if nobody reads what the shell writes. -/
def ended (action : ShellM Unit) (s : State) : ExitStatus × State :=
  let killed (signal : Nat) (s : State) : ExitStatus × State :=
    (.terminated (some signal),
      if signal == Signal.brokenPipe then { s with process := { s.process with starved := [] } } else s)
  match action s with
  | (.error (.killed signal), s) => killed signal s
  | (_, s) =>
    match (s.traps.lookup 0).filter (!·.isEmpty) with
    | none => (.exited s.status, s)
    | some text =>
      let start := { s with traps := s.traps.filter (·.1 != 0), exitCode := some s.status, isTested := false }
      match runText again false text start with
      | (.error (.killed signal), t) => killed signal t
      | (.error .exit, t) | (.error .fault, t) => (.exited t.status, t)
      | (_, t) => (.exited s.status, t)

/-! ## Jobs -/

/-- A shell that another one splits off to run something in a process. -/
def State.split (core : Core) (process : Process) : State :=
  { core with
    process := { process with starved := [] }
    isSubshell := true
    traps := core.traps.filter (·.2.isEmpty)
    pending := []
    incoming := []
    jobs := [] }

/-- How a job ends that began at a time, and the shell then. It runs in a process that sees a disk, and which is stopped
at a time if one is given. -/
def runAsleep (since : Time) (body : Command) (core : Core) (deadline : Option Time) (p : Process) :
    ExitStatus × State :=
  let own := core.process
  let process := { p with
    streams := own.streams
    environment := own.environment
    limits := own.limits
    deadline
    isStopped := false
    disk := { p.disk with cwd := own.disk.cwd, mask := own.disk.mask, clock := since } }
  let start := State.split core process
  let command := match body with
    | .subshell _ inner [] => inner
    | .subshell line inner redirections => .redirected line inner redirections
    | body => body
  ended again (do
    let (file, process) := (← get).process.openChannel .null .read
    modify fun s => { s with process := process.direct 0 (some file) }
    testing false (again command)) { start with incoming := core.incoming }

/-- The earlier of two times, either of which may be none. -/
def earlier (a b : Option Time) : Option Time :=
  match a, b with
  | some a, some b => some (min a b)
  | some a, none => some a
  | none, b => b

/-- Takes on what a job came to, with its signals that were not heard before. -/
def takeOn (heard : Time) (t : State) : ShellM Unit := do
  let before := (← get).process
  let after := before.after t.process
  let process := { after with
    isStopped := before.isStopped
    disk := { after.disk with clock := max before.disk.clock after.disk.clock } }
  modify fun s => { s with process }
  for (signal, time) in t.pending do
    if heard < time then Builtin.receive signal time

/-- A job after a time has been reached, or after its end. If it does not end by then, it is left asleep and has changed
nothing. -/
def advance (deadline : Option Time) (job : Job) : ShellM Job := do
  match job.progress with
  | .ended _ _ => pure job
  | .asleep wakes since body core =>
    if deadline.any (· < wakes) then pure job
    else
      let p := (← get).process
      let (status, t) := runAsleep again since body core (earlier deadline p.deadline) p
      if t.process.isStopped then
        if deadline.isNone then
          modify fun s => { s with process := { s.process with isStopped := true } }
          stopIfDue
        pure { job with progress := .asleep (max t.process.wakes wakes) since body core }
      else
        takeOn job.heard t
        pure { job with progress := .ended status false }

/-- Puts a job in the place of the one with its number. -/
def putJob (job : Job) : ShellM Unit :=
  modify fun s => { s with jobs := s.jobs.map fun old => if old.number == job.number then job else old }

/-- The time at which a job that is asleep will have ended, unless a time comes first. -/
def endTime (deadline : Option Time) (job : Job) : ShellM Time := do
  match job.progress with
  | .ended _ _ => pure 0
  | .asleep _ since body core =>
    let p := (← get).process
    pure (runAsleep again since body core (earlier deadline p.deadline) p).2.process.disk.clock

/-- The jobs that are asleep, in the order of their ends, with these. A single one is not asked when it ends. -/
def sleepers (deadline : Option Time) : ShellM (List (Job × Time)) := do
  let asleep := (← get).jobs.reverse.filter Job.isAsleep
  match asleep with
  | [job] => pure [(job, 0)]
  | jobs =>
    let timed ← jobs.mapM fun job => do pure (job, ← endTime again deadline job)
    pure (timed.mergeSort fun a b => a.2 ≤ b.2)

/-- The time that counts as no time for a job. -/
def instant : Nat := 1000000

/-- The signal that a job sends the shell while it goes on itself, and its time: one that has a trap. -/
def interruption? (job : Job) : ShellM (Option (Nat × Time)) := do
  match job.progress with
  | .ended _ _ => pure none
  | .asleep _ since body core =>
    let s ← get
    if s.isSubshell || s.traps.all (·.2.isEmpty) then pure none
    else
      let t := (runAsleep again since body core s.process.deadline s.process).2
      pure (t.pending.find? fun (signal, time) =>
        job.heard < time && time + instant < t.process.disk.clock &&
          (s.traps.lookup signal).any fun text => !text.isEmpty)

/-- Waits for jobs that are asleep, in the order of their ends, and tells the signal that came in between, if one
came. -/
def awaitJobs : List (Job × Time) → ShellM (Option Nat)
  | [] => pure none
  | (job, _) :: jobs => do
    match ← interruption? again job with
    | some (signal, time) =>
      putJob { job with heard := time }
      modify fun s =>
        let disk := { s.process.disk with clock := max s.process.disk.clock time }
        { s with process := { s.process with disk }, pending := s.pending ++ [(signal, time)] }
      pure (some signal)
    | none =>
      putJob (← advance again none job)
      awaitJobs jobs

/-- Lets the jobs go on up to the present time; then those that have ended are noticed, if that is asked for. -/
def settle (notices : Bool) : ShellM Unit := do
  let s ← get
  unless s.jobs.isEmpty do
    for job in s.jobs.reverse do
      putJob (← advance again (some (s.process.disk.clock + instant)) job)
    if notices then modify fun s => { s with jobs := s.jobs.map Job.noticed }

/-- The least number by which no job is called, or a job that was waited for. -/
def freePlace (jobs : List Job) : Nat :=
  let own := jobs.filter (!·.isForeign)
  let isFree (n : Nat) : Bool := own.all fun job => job.place != n + 1 || job.isGone && job.isWaited
  ((List.range (own.length + 1)).find? isFree).getD 0 + 1

/-- Lets the jobs go on, and gives up the number that a new process gets. -/
def makeRoom : ShellM Unit := do
  unless (← get).jobs.isEmpty do
    settle again false
    let place := freePlace (← get).jobs
    modify fun s => { s with jobs := s.jobs.filter fun job => job.isForeign || job.place != place }

/-- How long a process is given to end when nobody waits for it any more. -/
def patience : Nat := 3600000000000

/-- Runs all jobs to their ends. -/
def finishJobs : ShellM Unit := do
  let deadline := (← now) + patience
  if (← get).jobs.any Job.isAsleep then
    for (job, _) in ← sleepers again (some deadline) do
      putJob (← advance again (some deadline) job)

/-! ## Subshells -/

/-- Does something in a subshell, and tells how that ended. Its jobs are waited for, or left to the shell, which does
not know them. -/
def inSubshell (waits : Bool) (action : ShellM Unit) : ShellM ExitStatus := do
  makeRoom again
  let s ← get
  let foreign := s.jobs.map fun job => { job with progress := .ended (.exited 0) false, isForeign := true }
  let (status, child) := ended again action { State.split s.toCore s.process with jobs := foreign }
  let child := if waits then (finishJobs again child).2 else child
  let left := child.jobs.filter Job.isAsleep
  let orphans := left.map fun job => { job with isForeign := true, number := job.number + State.processNumber }
  set { s with process := s.process.after child.process, jobs := orphans ++ s.jobs }
  for (signal, time) in child.pending do
    Builtin.receive signal time
  pure status

/-- The text that commands write: without the line ends at its end. -/
def substitute : Substituter
  | .skip => pure ""
  | command => do
    let s ← get
    let number := s.process.buffers.size
    let (file, process) := s.process.openBuffer .empty none
    set { s with process := process.direct 1 (some file) }
    let status ← ensuring (inSubshell again true (testing false (again command))) fun t =>
      { t with process := t.process.direct 1 (s.process.streams.lookup 1) }
    let written := (← get).process.bufferBytes number
    modify fun t =>
      { t with process := { t.process with buffers := t.process.buffers.setIfInBounds number ⟨.empty, none, false⟩ } }
    conclude status
    modify fun t => { t with substitutionStatus := t.status, status := s.status }
    let text := (Text.ofBytes written).toList.filter (· != '\x00')
    pure (String.ofList (text.reverse.dropWhile (· == '\n')).reverse)

end Commands

end Rebuild.Shell
