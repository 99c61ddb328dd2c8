import Rebuild.Plan
import Rebuild.Report
import Rebuild.Rule.Loading

/-!
# Builds

A build loads the rules, plans the request, and goes through the steps of the plan in order: each checks that its
dependencies are there, decides whether its target is stale, and runs the command if it is. The first failure ends the
build. A dry run decides in the same way, but runs nothing and takes what it would have built to be there.

A `Run` records, whatever the result, which commands were invoked and the world that they left.
-/

namespace Rebuild

/-- The result of a build or of a part of it, the commands invoked in order, and the world after them. -/
structure Run (σ : Type u) (α : Type v) where
  result : Except Failure α
  invoked : List Invocation
  world : σ

namespace Build

variable {σ : Type u} [FileView σ]

/-! ## One step -/

/-- The first dependency that is not there. In a dry run what would have been rebuilt counts as there. -/
def missingSource? (root : String) (dryRun : Bool) (rebuilt : NameSet) (w : σ) (t : Target) : Option Name :=
  t.deps.find? fun dep => !(FileView.isThere w (Path.join root dep) || (dryRun && rebuilt.contains dep))

/-- Whether a target is stale, once all its dependencies are there. -/
def decideStep (root : String) (dryRun : Bool) (rebuilt : NameSet) (w : σ) (t : Target) : Except Failure Staleness :=
  match missingSource? root dryRun rebuilt w t with
  | some dep => .error (.missingSource dep)
  | none => (Staleness.decide root rebuilt w t.name t.deps).mapError .unreadable

/-- What a command's end comes to, in the world that it left. -/
def resultOfCommand (root : String) (t : Target) (staleness : Staleness) (w : σ) :
    Except StartFault Output → Except Failure StepResult
  | .error fault => .error (.buildFailed t.name (.notStarted fault))
  | .ok output =>
    if !output.status.isSuccess then .error (.buildFailed t.name (.ended output))
    else if !FileView.isThere w (Path.join root t.name) then .error (.outputNotProduced t.name)
    else .ok ⟨t.name, staleness, .built, some output⟩

/-- One step of a plan. -/
def runStep (runner : Runner σ) (root : String) (dryRun : Bool) (rebuilt : NameSet) (w : σ) (t : Target) :
    Run σ StepResult :=
  match decideStep root dryRun rebuilt w t with
  | .error failure => ⟨.error failure, [], w⟩
  | .ok .upToDate => ⟨.ok ⟨t.name, .upToDate, .upToDate, none⟩, [], w⟩
  | .ok staleness =>
    if dryRun then ⟨.ok ⟨t.name, staleness, .wouldBuild, none⟩, [], w⟩
    else
      let invocation := t.invocation root
      let (ended, w) := runner invocation w
      ⟨resultOfCommand root t staleness w ended, [invocation], w⟩

/-! ## All steps -/

/-- The names rebuilt after a step with this result. -/
def markRebuilt (rebuilt : NameSet) (r : StepResult) : NameSet :=
  if r.outcome = .upToDate then rebuilt else rebuilt.insert r.target

/-- The steps of a plan, up to the first failure. -/
def runSteps (runner : Runner σ) (root : String) (dryRun : Bool) (rebuilt : NameSet) (w : σ) :
    List Target → Run σ (List StepResult)
  | [] => ⟨.ok [], [], w⟩
  | t :: ts =>
    let step := runStep runner root dryRun rebuilt w t
    match step.result with
    | .error failure => ⟨.error failure, step.invoked, step.world⟩
    | .ok r =>
      let rest := runSteps runner root dryRun (markRebuilt rebuilt r) step.world ts
      ⟨rest.result.map (r :: ·), step.invoked ++ rest.invoked, rest.world⟩

/-- Goes through the steps of a plan. -/
def execute (runner : Runner σ) (root : String) (dryRun : Bool) (w : σ) (plan : Plan) : Run σ Report :=
  let run := runSteps runner root dryRun ∅ w plan.steps
  { run with result := run.result.map (⟨·⟩) }

end Build

/-! ## Requests -/

/-- What to build, or all targets, from which rule files, and whether to run anything. -/
structure Request where
  target : Option Name
  rules : List String
  dryRun : Bool
deriving DecidableEq, Repr

/-- What a build that succeeds comes to. -/
structure Outcome where
  plan : Plan
  report : Report
  listing : List Name
deriving DecidableEq

variable {σ : Type u} [FileView σ]

/-- Builds a name, or all targets, by the rules of a set. -/
def buildRules (runner : Runner σ) (root : String) (rules : RuleSet) (target : Option Name) (dryRun : Bool) (w : σ) :
    Run σ Outcome :=
  match (Graph.ofRules rules).planFor root w target with
  | .error failure => ⟨.error failure, [], w⟩
  | .ok plan =>
    let run := Build.execute runner root dryRun w plan
    { run with result := run.result.map fun report => ⟨plan, report, listing plan.closure⟩ }

/-- Loads the rules of a request and builds it. -/
def build (runner : Runner σ) (root : String) (request : Request) (w : σ) : Run σ Outcome :=
  match RuleSet.load w request.rules with
  | .error failure => ⟨.error failure, [], w⟩
  | .ok rules => buildRules runner root rules request.target request.dryRun w

end Rebuild
