import Rebuild.FileView
import Rebuild.LogLevel
import Rebuild.Path
import Rebuild.Text.Quoted
import Rebuild.Toml.Document

/-!
# Settings

The settings of a project are a TOML document with two optional keys: `rules`, an array of rule files, and `log_level`,
the name of a level. The document is read as a whole before its keys are looked at, and the keys are looked at in the
order of their bytes, so of several faults the first in this order counts.
-/

namespace Rebuild

/-- The rule files and the log level that a project sets. -/
structure Settings where
  rules : List String
  logLevel : Option LogLevel
deriving DecidableEq, Repr

namespace Settings

/-- Why settings cannot be used. -/
inductive Fault where
  /-- The document is not TOML. -/
  | malformed
  /-- A key is neither of the two. -/
  | unknownKey (key : String)
  /-- The text given as log level names none. -/
  | unknownLevel (name : String)
  /-- A value is of the wrong type. -/
  | wrongType (found expected : String)
  /-- A value that can be no log level, or a number out of range. -/
  | unusableValue
  /-- A rule file has a blank name. -/
  | blankRule
  /-- The file cannot be read. -/
  | unreadable (fault : FileFault)
deriving DecidableEq, Repr

/-- The wording of what does not fit in a document that is TOML, where it has one. -/
def Fault.schemaMessage? : Fault → Option String
  | .unknownKey key => some s!"unknown field `{key}`, expected `rules` or `log_level`"
  | .unknownLevel name =>
    let names := ", ".intercalate (LogLevel.all.map fun level => s!"`{level.name}`")
    some s!"unknown variant `{name}`, expected one of {names}"
  | .wrongType found expected => some s!"invalid type: {found}, expected {expected}"
  | _ => none

/-- The messages of a fault, from what was attempted to what went wrong. -/
def Fault.messages : Fault → List String
  | .blankRule => ["settings error: `rules` entries must be non-empty paths"]
  | .unreadable fault => fault.messages
  | fault => ["TOML parsing error: " ++ fault.schemaMessage?.getD "invalid document"]

/-! ## Types of values -/

/-- Whether an integer is less than a power of two. -/
def isBelowTwoTo (bits : Nat) (n : Int) : Bool :=
  n < (Nat.pow 2 bits : Int)

/-- An integer as a message names it; none if it has more than 128 bits. -/
def integerText? (n : Int) : Option String :=
  let isFrom (bits : Nat) : Bool := isBelowTwoTo bits (-n - 1)
  if isFrom 63 && isBelowTwoTo 64 n then some s!"integer `{n}`"
  else if isFrom 127 && isBelowTwoTo 127 n then some s!"integer `{n}` as i128"
  else if 0 ≤ n && isBelowTwoTo 128 n then some s!"integer `{n}` as u128"
  else none

/-- A floating-point number as a message names it; none if it is too large. -/
def floatText? : Toml.FloatText → Option String
  | .nan => some "floating point `NaN`"
  | .infinite negative => some (if negative then "floating point `-inf`" else "floating point `inf`")
  | .finite negative magnitude => do
    let f ← magnitude.toFloat?
    let d ← Decimal.ofFloat? f
    let sign := if negative then "-" else ""
    some s!"floating point `{sign}{d.positional}`"

/-- A value as a message names it, where it can. -/
def valueText? : Toml.Value → Option String
  | .string text => some ("string " ++ Text.quote text)
  | .integer n => integerText? n
  | .float f => floatText? f
  | .boolean b => some s!"boolean `{b}`"
  | .array _ _ => some "sequence"
  | .dateTime | .table _ _ => some "map"
  | .nonNumber => none

/-- The fault of a value where another type is expected. -/
def typeFault (value : Toml.Value) (expected : String) : Fault :=
  match valueText? value with
  | some found => .wrongType found expected
  | none => .unusableValue

/-! ## Reading -/

/-- The texts of an array. -/
def textsOf : List Toml.Value → Except Fault (List String)
  | [] => .ok []
  | .string text :: values => (textsOf values).map (text :: ·)
  | value :: _ => .error (typeFault value "a string")

/-- The rule files that a value lists. -/
def rulesOf : Toml.Value → Except Fault (List String)
  | .array _ values => textsOf values
  | value => .error (typeFault value "a sequence")

/-- The log level with exactly this name. -/
def levelNamed (name : String) : Except Fault LogLevel :=
  match LogLevel.ofName? name with
  | some level => .ok level
  | none => .error (.unknownLevel name)

/-- The log level that a value names: by a text, or by the only key of a table whose value is empty. -/
def levelOf : Toml.Value → Except Fault LogLevel
  | .string name => levelNamed name
  | .table _ [(name, value)] => do
    let level ← levelNamed name
    match value with
    | .table _ [] | .array _ [] => .ok level
    | _ => .error .unusableValue
  | _ => .error .unusableValue

/-- The settings after one more key. -/
def add (s : Settings) (entry : String × Toml.Value) : Except Fault Settings :=
  match entry.1 with
  | "rules" => (rulesOf entry.2).map fun rules => { s with rules }
  | "log_level" => (levelOf entry.2).map fun level => { s with logLevel := some level }
  | key => .error (.unknownKey key)

/-- The settings of a document. -/
def ofToml (text : String) : Except Fault Settings :=
  match Toml.entries? text with
  | none => .error .malformed
  | some entries => do
    let s ← (entries.mergeSort fun a b => (compare a.1 b.1).isLE).foldlM add ⟨[], none⟩
    if s.rules.any Text.isBlankText then .error .blankRule else .ok s

/-- The name of the settings file. -/
def fileName : String := "ruler.toml"

/-- The settings of a project; the default ones if it has no settings file. -/
def load [FileView σ] (w : σ) (root : String) : Except Fault Settings :=
  let path := Path.join root fileName
  if !FileView.isThere w path then .ok ⟨[], none⟩
  else
    match FileView.readText w path with
    | .error fault => .error (.unreadable fault)
    | .ok text => ofToml text

/-! ## Rule files -/

/-- The rule file of a project that sets none. -/
def defaultRules : String := "build.rules"

/-- The rule files to load: those of the command line, else those of the settings, else the default one. -/
def rulePaths (s : Settings) (commandLine : List String) (root : String) : List String :=
  let chosen := if commandLine.isEmpty then s.rules else commandLine
  (if chosen.isEmpty then [defaultRules] else chosen).map (Path.join root)

end Settings

end Rebuild
