import Rebuild.FileView
import Rebuild.Rule.Basic

/-!
# Commands

A rule's command runs as an `Invocation`. It either ends, with an exit status and what it wrote, or it does not start at
all. A `Runner` says which, and what becomes of the world that the command acts on.
-/

namespace Rebuild

/-- A command to be run for a target, in a directory. -/
structure Invocation where
  target : Name
  deps : List Name
  program : String
  args : List String
  cwd : String
deriving DecidableEq, Repr

/-- The command of a rule, run in a directory. -/
def Target.invocation (t : Target) (cwd : String) : Invocation :=
  ⟨t.name, t.deps, t.program, t.args, cwd⟩

/-- How a command ended. -/
inductive ExitStatus where
  | exited (code : Int)
  /-- Ended by a signal, if it is known which. -/
  | terminated (signal : Option Int)
deriving DecidableEq, Repr

namespace ExitStatus

/-- Whether the command ended well. -/
def isSuccess (s : ExitStatus) : Bool :=
  s == .exited 0

/-- The wording of an exit status. -/
def message : ExitStatus → String
  | .exited code => s!"exited with status {code}"
  | .terminated (some signal) => s!"terminated by signal {signal}"
  | .terminated none => "terminated abnormally"

end ExitStatus

/-- How a command ended and what it wrote. -/
structure Output where
  status : ExitStatus
  stdout : String
  stderr : String
deriving DecidableEq, Repr

/-- Why a command did not start. -/
inductive StartFault where
  /-- The program cannot be started. -/
  | spawning (program : String) (target : Name) (cause : String)
  /-- A file that the command needs cannot be read. -/
  | unreadable (fault : FileFault)
  /-- Another reason, from what was attempted to what went wrong. -/
  | other (messages : List String)
deriving DecidableEq, Repr

/-- The messages of a fault, from what was attempted to what went wrong. -/
def StartFault.messages : StartFault → List String
  | .spawning program target cause => [s!"spawning '{program}' for target '{target}'", cause]
  | .unreadable fault => fault.messages
  | .other messages => messages

/-- What running a command comes to in a world, and the world after it. -/
abbrev Runner (σ : Type u) := Invocation → σ → Except StartFault Output × σ

end Rebuild
