import Rebuild.FileView
import Rebuild.Graph.Traversal
import Rebuild.Path

/-!
# Staleness

A target is stale if its output is not there, if a dependency was rebuilt before it in the same run, or if a dependency
is strictly newer than the output. The reasons are tried in this order, and each names the first dependency that it
holds of.
-/

namespace Rebuild

/-- Whether a target has to be rebuilt, and why. -/
inductive Staleness where
  | outputMissing
  | dependencyRebuilt (dep : Name)
  | dependencyNewer (dep : Name)
  | upToDate
deriving DecidableEq, Repr

namespace Staleness

/-- Whether the target has to be rebuilt. -/
def isStale (s : Staleness) : Bool :=
  s != .upToDate

/-- The wording of a decision. -/
def message : Staleness → String
  | .outputMissing => "output missing"
  | .dependencyRebuilt dep => s!"dependency '{dep}' rebuilt"
  | .dependencyNewer dep => s!"dependency '{dep}' is newer"
  | .upToDate => "up to date"

/-- The first of the names whose file is newer than a time. Where nothing is there, nothing is newer. -/
def firstNewer? [FileView σ] (root : String) (w : σ) (time : Time) : List Name → Except FileFault (Option Name)
  | [] => .ok none
  | dep :: deps =>
    match FileView.modified w (Path.join root dep) with
    | .error fault => .error fault
    | .ok none => firstNewer? root w time deps
    | .ok (some depTime) => if time < depTime then .ok (some dep) else firstNewer? root w time deps

/-- The decision on a target with these dependencies, where `rebuilt` holds the names rebuilt in this run. -/
def decide [FileView σ] (root : String) (rebuilt : NameSet) (w : σ) (target : Name) (deps : List Name) :
    Except FileFault Staleness :=
  match FileView.modified w (Path.join root target) with
  | .error fault => .error fault
  | .ok none => .ok .outputMissing
  | .ok (some time) =>
    match deps.find? rebuilt.contains with
    | some dep => .ok (.dependencyRebuilt dep)
    | none =>
      match firstNewer? root w time deps with
      | .error fault => .error fault
      | .ok (some dep) => .ok (.dependencyNewer dep)
      | .ok none => .ok .upToDate

end Staleness

end Rebuild
