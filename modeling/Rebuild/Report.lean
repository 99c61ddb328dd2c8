import Rebuild.Command
import Rebuild.Staleness

/-!
# Reports and listings

A report says what became of each step of a plan. A listing holds the names of a closure, each once, in the order of
their UTF-8 bytes.
-/

namespace Rebuild

/-- What became of a step. -/
inductive StepOutcome where
  /-- The command ran and the output is there. -/
  | built
  /-- The output was current, and no command ran. -/
  | upToDate
  /-- The command would run, but this is a dry run. -/
  | wouldBuild
deriving DecidableEq, Repr

/-- What became of the step of a target, and the output of its command if one ran. -/
structure StepResult where
  target : Name
  staleness : Staleness
  outcome : StepOutcome
  output : Option Output
deriving DecidableEq, Repr

/-- The results of the steps, in the order of the plan. -/
structure Report where
  results : List StepResult
deriving DecidableEq, Repr

namespace Report

/-- The targets with an outcome. -/
def withOutcome (r : Report) (outcome : StepOutcome) : List Name :=
  (r.results.filter (·.outcome == outcome)).map StepResult.target

/-- The targets whose command ran. -/
def built (r : Report) : List Name :=
  r.withOutcome .built

/-- The targets that were current. -/
def upToDate (r : Report) : List Name :=
  r.withOutcome .upToDate

/-- The line of a dry run for one step. -/
def dryRunLine (r : StepResult) : String :=
  match r.outcome with
  | .upToDate => s!"{r.target}: up to date\n"
  | _ => s!"{r.target}: would build ({r.staleness.message})\n"

/-- The text of a dry run: a line for each step. -/
def dryRunText (r : Report) : String :=
  String.join (r.results.map dryRunLine)

end Report

/-! ## Listings -/

/-- The order of texts by their UTF-8 bytes. -/
def byteOrder (a b : String) : Ordering :=
  compare a.toByteArray.data.toList b.toByteArray.data.toList

/-- The names, each once, in the order of their bytes. -/
def listing (names : List Name) : List Name :=
  (Std.TreeSet.ofList names byteOrder).toList

/-- The text of a listing: one name to a line. -/
def listingText (names : List Name) : String :=
  String.join (names.map (· ++ "\n"))

end Rebuild
