import Rebuild.Command
import Rebuild.Store

/-!
# Rehearsed commands

A rehearsal says how each target's command behaves on a store of files, so that builds can be followed without starting
any program. The usual command writes the texts of the dependencies, one after the other, to its target.
-/

namespace Rebuild

/-- How a target's command behaves. -/
inductive Behaviour where
  /-- Writes the texts of the dependencies to the target, and this to the error stream. -/
  | produce (stderr : String)
  /-- Ends with an exit code and this on the error stream, and writes no file. -/
  | fail (code : Int) (stderr : String)
  /-- Ends well and writes no file. -/
  | forget
  /-- Does not start. -/
  | refuse
  /-- Changes files, and then ends or turns out not to have started. -/
  | script (edits : List Store.Edit) (ending : Except StartFault Output)

/-- How the command of each target behaves. -/
abbrev Rehearsal := Name → Behaviour

namespace Rehearsal

/-- Every command produces its target and writes nothing to its error stream. -/
def usual : Rehearsal := fun _ => .produce ""

/-- The rehearsal with another behaviour for one target. -/
def set (r : Rehearsal) (target : Name) (behaviour : Behaviour) : Rehearsal :=
  fun name => if name = target then behaviour else r name

/-- The texts of files below a directory, one after the other. -/
def contents (s : Store) (cwd : String) : List Name → Except FileFault ByteArray
  | [] => .ok .empty
  | dep :: deps =>
    match s.readText (Path.join cwd dep) with
    | .error fault => .error fault
    | .ok text => (contents s cwd deps).map (text.toByteArray ++ ·)

/-- Runs a command with a behaviour. -/
def run (behaviour : Behaviour) (i : Invocation) (s : Store) : Except StartFault Output × Store :=
  match behaviour with
  | .produce stderr =>
    match contents s i.cwd i.deps with
    | .error fault => (.error (.unreadable fault), s)
    | .ok content => (.ok ⟨.exited 0, "", stderr⟩, s.write (Path.join i.cwd i.target) content)
  | .fail code stderr => (.ok ⟨.exited code, "", stderr⟩, s)
  | .forget => (.ok ⟨.exited 0, "", ""⟩, s)
  | .refuse => (.error (.spawning i.program i.target "No such file or directory"), s)
  | .script edits ending => (ending, s.applyAll edits)

/-- The runner that follows a rehearsal. -/
def runner (r : Rehearsal) : Runner Store :=
  fun i s => run (r i.target) i s

end Rehearsal

end Rebuild
