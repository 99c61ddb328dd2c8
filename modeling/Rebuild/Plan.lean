import Rebuild.FileView
import Rebuild.Failure
import Rebuild.Graph.Traversal
import Rebuild.Path

/-!
# Plans

A plan for a request holds the closure of the requested names, dependencies before dependents, and the rules of the
targets in it: the steps, in the same order. A requested name must have a rule or be a file that is there, and must not
stand for the build root itself.
-/

namespace Rebuild

/-- The rules to be brought up to date, in order, and all names that this involves. -/
structure Plan where
  steps : List Target
  closure : List Name
deriving DecidableEq

namespace Graph

/-- The plan for a closure in which dependencies come before their dependents. -/
def planOfClosure (g : Graph) (closure : List Name) : Plan :=
  ⟨closure.filterMap g.rule?, closure⟩

/-- The closure of some roots, dependencies before dependents. -/
def closure (g : Graph) (roots : List Name) : Except Failure (List Name) :=
  (g.postOrder roots).mapError .cyclicDependency

/-- The plan for a name, whether or not a file of that name is there. -/
def plan (g : Graph) (name : Name) : Except Failure Plan :=
  (g.closure [name]).map g.planOfClosure

/-- The plan for all targets. -/
def planAll (g : Graph) : Except Failure Plan :=
  (g.closure g.targets).map g.planOfClosure

/-- The closure of a requested name, whose file is looked for below the root if it has no rule. -/
def resolve [FileView σ] (g : Graph) (root : String) (w : σ) (name : Name) : Except Failure (List Name) :=
  if Path.isHere name then .error (.unknownTarget name)
  else if !g.isTarget name && !FileView.isThere w (Path.join root name) then .error (.unknownTarget name)
  else g.closure [name]

/-- The plan for a request: a name, or all targets. -/
def planFor [FileView σ] (g : Graph) (root : String) (w : σ) : Option Name → Except Failure Plan
  | some name => (g.resolve root w name).map g.planOfClosure
  | none => g.planAll

end Graph

end Rebuild
