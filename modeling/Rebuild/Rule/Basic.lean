/-!
# Rules

A rule names a target, the names that it depends on, and the command that produces it. `RawRule` is a rule as it was
written: three lists of words and the place of its block. `Target` is a rule that is sound on its own, and `RuleSet` a
list of such rules in which every name has at most one. `Malformed` says which block is wrong, and why.
-/

namespace Rebuild

/-- The name of a file below the build root. -/
abbrev Name := String

/-! ## Rules as written -/

/-- The place of a block: the text that it is in, its number there, and the number of its first line, both from 1. -/
structure Location where
  origin : String
  block : Nat
  line : Nat
deriving DecidableEq, Repr, Inhabited

/-- A block read as three sections, not yet checked. -/
structure RawRule where
  location : Location
  targets : List Name
  sources : List Name
  command : List String
deriving DecidableEq, Repr

/-- What can be wrong with a block. -/
inductive Defect where
  /-- The block has no delimiter at all. -/
  | noDelimiter
  /-- Nothing follows the last delimiter, which closes the target or the dependency section. -/
  | noCommandSection
  /-- The command section is not closed. -/
  | unterminated
  /-- A word follows the delimiter that closes the command section. -/
  | trailing (word : String)
  /-- The target section is empty. -/
  | noTarget
  /-- The target section holds several names. -/
  | severalTargets (first : Name) (count : Nat)
  /-- The dependency section is empty. -/
  | noDependency (target : Name)
  /-- The command section is empty. -/
  | noCommand (target : Name)
  /-- The target already has a rule. -/
  | duplicate (target : Name) (first : Location)
deriving DecidableEq, Repr

/-- The wording of a defect. -/
def Defect.message : Defect → String
  | .noDelimiter => "missing ':' after target name"
  | .noCommandSection => "missing command section"
  | .unterminated => "block is not terminated by ':'"
  | .trailing word => s!"unexpected token '{word}' after terminating ':'"
  | .noTarget => "empty target name"
  | .severalTargets first count => s!"target section of '{first}' must hold a single name, found {count}"
  | .noDependency target => s!"target '{target}' has an empty dependency list"
  | .noCommand target => s!"target '{target}' is missing its command"
  | .duplicate target first =>
    s!"duplicate target name '{target}' (first declared in {first.origin}, block {first.block})"

/-- A block that is no rule. -/
structure Malformed where
  location : Location
  defect : Defect
deriving DecidableEq, Repr

/-- The wording of a malformed block. -/
def Malformed.message (m : Malformed) : String :=
  s!"malformed rule in {m.location.origin}, block {m.location.block} (line {m.location.line}): {m.defect.message}"

/-! ## Rules that hold -/

/-- A name with the names that it depends on, in order, and the command that produces it. -/
structure Target where
  name : Name
  deps : List Name
  program : String
  args : List String
deriving DecidableEq, Repr

/-- The words of the command: the program and its arguments. -/
def Target.command (t : Target) : List String :=
  t.program :: t.args

/-- Rules in the order written, at most one for each name, each with a dependency. -/
structure RuleSet where
  targets : List Target
  names_nodup : (targets.map Target.name).Nodup
  deps_ne_nil : ∀ t ∈ targets, t.deps ≠ []

namespace RuleSet

/-- No rules. -/
def empty : RuleSet := ⟨[], by simp, by simp⟩

/-- The rule for a name. -/
def get? (rules : RuleSet) (name : Name) : Option Target :=
  rules.targets.find? (·.name == name)

/-- The number of rules. -/
def size (rules : RuleSet) : Nat :=
  rules.targets.length

@[ext] theorem ext {r s : RuleSet} (h : r.targets = s.targets) : r = s := by
  cases r; cases s; cases h; rfl

end RuleSet

end Rebuild
