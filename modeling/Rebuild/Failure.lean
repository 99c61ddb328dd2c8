import Rebuild.Command
import Rebuild.Text.Blank
import Rebuild.Text.Line

/-!
# Failures of a build

Each way in which a build can fail, with its wording. A command's failure is worded by its exit status and the last line
that it wrote to its error stream.
-/

namespace Rebuild

/-- How a command failed. -/
inductive CommandFailure where
  | notStarted (fault : StartFault)
  | ended (output : Output)
deriving DecidableEq, Repr

namespace CommandFailure

/-- The last line of a text that is not blank, trimmed. -/
def lastWords? (text : String) : Option String :=
  ((Text.lines text).reverse.find? (!Text.isBlankText ·)).map Text.trim

/-- The wording of a command's failure. -/
def message : CommandFailure → String
  | .notStarted fault => ": ".intercalate fault.messages
  | .ended output =>
    match lastWords? output.stderr with
    | some line => output.status.message ++ ": " ++ line
    | none => output.status.message

/-- What the command wrote to its error stream. -/
def stderr : CommandFailure → String
  | .notStarted _ => ""
  | .ended output => output.stderr

end CommandFailure

/-- Why a build fails. -/
inductive Failure where
  /-- A block of the rules is no rule. -/
  | malformedRule (malformed : Malformed)
  /-- A rule file, or what a target's staleness depends on, cannot be read. -/
  | unreadable (fault : FileFault)
  /-- The requested name has no rule, and no such file is there. -/
  | unknownTarget (name : Name)
  /-- A name depends on itself; the path leads from it back to it. -/
  | cyclicDependency (path : List Name)
  /-- A dependency of a planned target is not there. -/
  | missingSource (name : Name)
  /-- A target's command did not start or did not end well. -/
  | buildFailed (target : Name) (cause : CommandFailure)
  /-- A target's command ended well, but its output is not there. -/
  | outputNotProduced (target : Name)
deriving DecidableEq, Repr

namespace Failure

/-- The messages of a failure, from what was attempted to what went wrong. -/
def messages : Failure → List String
  | .malformedRule malformed => [malformed.message]
  | .unreadable fault => fault.messages
  | .unknownTarget name => [s!"unknown target: '{name}' has no rule and no file exists with that name"]
  | .cyclicDependency path => ["cyclic dependency: " ++ " -> ".intercalate path]
  | .missingSource name => [s!"missing source: '{name}' does not exist"]
  | .buildFailed target cause => [s!"build failed for target '{target}': " ++ cause.message]
  | .outputNotProduced target =>
    [s!"output not produced: command for '{target}' exited successfully but did not create it"]

/-- What a failed command wrote to its error stream. -/
def stderr : Failure → String
  | .buildFailed _ cause => cause.stderr
  | _ => ""

end Failure

end Rebuild
