import Rebuild.Shell.Subshell

/-!
# Jobs

Commands may be run without being waited for. What such a job does before it waits itself is done at once, if it ends
without waiting; otherwise it is done when the time has come at which it ends. The shell waits for jobs, sends them
signals and tells how far they are.
-/

namespace Rebuild.Shell

open ShellM

namespace Job

/-- What the shell tells of how far a job is. -/
def condition (j : Job) : String :=
  match j.progress with
  | .asleep _ _ _ _ => "Running"
  | .ended (.exited 0) _ => "Done"
  | .ended (.exited code) _ => s!"Done({code})"
  | .ended (.terminated signal) _ => Signal.text (signal.getD 0).toNat

/-- The line that tells of a job. -/
def line (j : Job) (sign : String) : String :=
  let text := s!"[{j.place}] {sign} {j.condition}"
  text ++ String.ofList (List.replicate (33 - text.length) ' ') ++ "\n"

end Job

section Commands

variable (again : Command → ShellM Unit)

/-- Starts a command for which nobody waits; there is nothing for it to read. -/
def runBackground (body : Command) : ShellM Unit := do
  makeRoom again
  let s ← get
  let time := s.process.disk.clock
  let number := State.processNumber + s.started + 1
  let job : Job := ⟨number, freePlace s.jobs, .asleep time time body s.toCore, false, false, 0⟩
  set { s with jobs := job :: s.jobs, started := s.started + 1, lastJob := some number, status := 0 }

/-! ## Waiting -/

/-- The jobs that have ended when the last of some jobs has, with the times of their ends. -/
def sleepersUpTo (isMeant : Job → Bool) : ShellM (List (Job × Time)) := do
  if (← get).jobs.any fun job => job.isAsleep && isMeant job then
    let all ← sleepers again none
    let last := ((all.filter fun pair => isMeant pair.1).map Prod.snd).foldl max 0
    pure (all.filter (·.2 ≤ last))
  else pure []

/-- Waits for one job, and ends with its status. -/
def waitFor (number : Nat) : ShellM Unit := do
  match (← get).jobs.find? fun job => job.number == number && !job.isForeign with
  | none => finish 127
  | some _ =>
    match ← awaitJobs again (← sleepersUpTo again (·.number == number)) with
    | some signal => finish (128 + signal)
    | none =>
      match (← get).jobs.find? (·.number == number) with
      | some job =>
        match job.progress with
        | .ended status isNoticed =>
          unless isNoticed do tellSignal status
          putJob { job.noticed with isWaited := true }
          finish (codeOf status)
        | .asleep _ _ _ _ => finish 0
      | none => finish 127

/-- The number of the process that an argument names: by that number, or after a percent sign by the number by which the
shell calls the job. -/
def jobNumber (arg : String) : ShellM Nat := do
  match arg.toList with
  | '%' :: place =>
    let jobs := (← get).jobs.filter (!·.isForeign)
    let found := if place.isEmpty || place == ['%'] || place == ['+'] then jobs.head?
      else if place == ['-'] then (jobs.drop 1).head?
      else jobs.find? fun job => toString job.place == String.ofList place
    match found with
    | some job => pure job.number
    | none => fail s!"No such job: {arg}" 2
  | _ => Builtin.number arg

/-- Waits for jobs. -/
def wait : Builtin := fun args => do
  let (_, args) ← Builtin.options "" args
  match args with
  | [] =>
    match ← awaitJobs again (← sleepersUpTo again (!·.isForeign)) with
    | some signal => finish (128 + signal)
    | none =>
      modify fun s => { s with jobs := s.jobs.map fun job => { job.noticed with isWaited := true } }
      finish 0
  | args =>
    for arg in args do waitFor again (← jobNumber arg)

/-- Tells how far the jobs are. -/
def tellJobs : Builtin := fun args => do
  let _ ← Builtin.options "lp" args
  settle again true
  let own := (← get).jobs.filter (!·.isForeign)
  let sign (job : Job) : String :=
    match ((own.takeWhile (·.number != job.number)).filter Job.isAsleep).length with
    | 0 => "+"
    | 1 => "-"
    | _ => " "
  say (String.join (own.map fun job => job.line (sign job)))
  modify fun s => { s with jobs := s.jobs.filter fun job => job.isForeign || job.isAsleep }
  finish 0

/-! ## Signals -/

/-- Sends a signal to a job. One that has a trap for it goes on; another ends, and has done what it had done so far. -/
def strike (signal : Nat) (job : Job) : ShellM Unit := do
  match job.progress with
  | .ended _ _ => pure ()
  | .asleep wakes since body core =>
    if !Signal.isHarmless signal then
      let time ← now
      let (_, t) := runAsleep again since body core (some time) (← get).process
      if signal != 9 && t.traps.any (·.1 == signal) then
        putJob { job with
          progress := .asleep wakes since body { core with incoming := core.incoming ++ [(signal, time)] } }
      else
        takeOn job.heard t
        putJob { job with progress := .ended (.terminated (some signal)) false }

/-- Sends a signal to the process with a number, which may stand for the shell or one of its jobs. -/
def sendTo (signal : Nat) (target : String) : ShellM Unit := do
  let missing : ShellM Unit := do
    warn "No such process\n"
    finish 1
  match target.toList with
  | '%' :: _ =>
    let _ ← jobNumber target
    missing
  | '-' :: digits =>
    let _ ← Builtin.number (String.ofList digits)
    missing
  | _ =>
    let number ← Builtin.number target
    if number == State.processNumber then Builtin.receive signal (← now)
    else
      settle again false
      match (← get).jobs.find? (·.number == number) with
      | some job => if job.isGone then missing else strike again signal job
      | none => missing

/-- Tells the names of signals. -/
def tellSignals (args : List String) : ShellM Unit := do
  match args with
  | [] =>
    say (String.join ("0\n" :: Signal.names.map (· ++ "\n")))
    finish 0
  | arg :: _ =>
    let n ← Builtin.number arg
    let signal := if 128 < n then n - 128 else n
    if signal == 0 || Signal.last < signal then fail s!"invalid signal number or exit status: {arg}" 2
    say (Signal.name signal ++ "\n")
    finish 0

/-- The signal that a text names; the end of a shell is none. -/
def signalNamed? (text : String) : Option Nat :=
  (Signal.ofText? text).filter fun signal => signal != 0 || text.toList.all Char.isDigit

/-- The options of a command that sends signals: whether the names are asked for, the signal, and the other
arguments. -/
def signalOptions (args : List String) : ShellM (Bool × Option Nat × List String) := do
  let first := args.headD ""
  match if first.startsWith "-" then signalNamed? (first.drop 1).toString else none with
  | some signal => pure (false, some signal, args.drop 1)
  | none => do
    let (flags, targets) ← Builtin.options "ls:" args
    let mut chosen : Option Nat := none
    for (letter, value) in flags do
      if letter == 's' then
        match signalNamed? value with
        | some signal => chosen := some signal
        | none => fail s!"invalid signal number or name: {value}" 2
    pure (flags.any (·.1 == 'l'), chosen, targets)

/-- Sends a signal to processes, or tells the names of signals. -/
def kill : Builtin := fun args => do
  let usage : ShellM Unit :=
    fail "Usage: kill [-s sigspec | -signum | -sigspec] [pid | job]... or\nkill -l [exitstatus]" 2
  if args.isEmpty then usage
  else
    let (tells, chosen, targets) ← signalOptions args
    if tells then
      if chosen.isSome && !targets.isEmpty then usage else tellSignals targets
    else if targets.isEmpty then usage
    else
      finish 0
      for target in targets do sendTo again (chosen.getD 15) target

/-- Refuses to go on with a job in another way, which only a shell with a terminal can do. -/
def resume : Builtin := fun args => do
  if (← get).jobs.all (·.isForeign) && args.isEmpty then fail "No current job" 2
  else
    let _ ← jobNumber (args.headD "%%")
    fail "job (null) not created under job control" 2

/-- The commands of the shell that deal with jobs. -/
def jobBuiltins : List (String × Builtin) :=
  [("bg", resume), ("fg", resume), ("jobs", tellJobs again), ("kill", kill again), ("wait", wait again)]

end Commands

end Rebuild.Shell
