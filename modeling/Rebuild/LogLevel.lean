import Rebuild.Text.Blank
import Rebuild.Text.LowerCase

/-!
# Log levels

A level is named by a word, whatever its case and the blanks around it. It comes from the command line, else from the
environment if that names one, else from the settings.
-/

namespace Rebuild

/-- How much is logged. -/
inductive LogLevel where
  | error
  | warn
  | info
  | debug
  | trace
deriving DecidableEq, Repr

namespace LogLevel

/-- All levels, the quietest first. -/
def all : List LogLevel := [.error, .warn, .info, .debug, .trace]

/-- The name of a level. -/
def name : LogLevel → String
  | .error => "error"
  | .warn => "warn"
  | .info => "info"
  | .debug => "debug"
  | .trace => "trace"

/-- The level with exactly this name. -/
def ofName? (name : String) : Option LogLevel :=
  all.find? (·.name == name)

/-- A trimmed word in lower case that names no level. -/
structure Unknown where
  word : String
deriving DecidableEq, Repr

/-- The wording of an unknown level. -/
def Unknown.message (u : Unknown) : String :=
  s!"invalid log level: {u.word} (expected error, warn, info, debug or trace)"

/-- The level that a word names. A warning level may also be called `warning`. -/
def ofWord? (word : String) : Option LogLevel :=
  if word == "warning" then some .warn else ofName? word

/-- The word in lower case that a text is. -/
def wordOf (text : String) : String :=
  Text.lowerCase (Text.trim text)

/-- The level that a text names. -/
def ofText (text : String) : Except Unknown LogLevel :=
  match ofWord? (wordOf text) with
  | some level => .ok level
  | none => .error ⟨wordOf text⟩

/-- The level in force. An environment that names no level is ignored. -/
def effective (commandLine : Option LogLevel) (environment : Option String) (configured : Option LogLevel) : LogLevel :=
  (commandLine <|> (environment.bind fun text => (ofText text).toOption) <|> configured).getD .warn

end LogLevel

end Rebuild
