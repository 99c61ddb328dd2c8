import Rebuild.Failure
import Rebuild.Rule.Validation

/-!
# Loading rule files

The rules of several files are read in order, each file to its end before the next, and only then checked together, so
that a name must not have rules in two files.
-/

namespace Rebuild

variable {σ : Type u} [FileView σ]

/-- The rules of a file as written. -/
def RawRule.load (w : σ) (path : String) : Except Failure (List RawRule) :=
  match FileView.readText w path with
  | .error fault => .error (.unreadable fault)
  | .ok text => (RawRule.ofText text path).mapError .malformedRule

/-- The rules of files as written, up to the first file that is unreadable or malformed. -/
def RawRule.loadAll (w : σ) : List String → Except Failure (List RawRule)
  | [] => .ok []
  | path :: paths =>
    match RawRule.load w path with
    | .error failure => .error failure
    | .ok rules => (RawRule.loadAll w paths).map (rules ++ ·)

/-- The rule set that files spell together. -/
def RuleSet.load (w : σ) (paths : List String) : Except Failure RuleSet :=
  match RawRule.loadAll w paths with
  | .error failure => .error failure
  | .ok rules => (RuleSet.ofRawRules rules).mapError .malformedRule

end Rebuild
