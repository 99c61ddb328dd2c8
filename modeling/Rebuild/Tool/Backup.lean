import Rebuild.Tool.Amount
import Rebuild.Tool.Input
import Rebuild.Tool.Node

/-!
# Backups

What is replaced can be kept under another name: with a suffix, with a number between marks, or with a number if there
is a backup with one already.
-/

namespace Rebuild.Tool

open Text

/-- How backups are named. -/
inductive BackupKind where
  | simple
  | numbered
  | existing
deriving DecidableEq, Repr

/-- How backups are made. -/
structure BackupStyle where
  kind : BackupKind
  suffix : String
deriving DecidableEq, Repr

/-- The options that ask for backups. -/
def backupRules : List OptionRule :=
  [⟨"b", "", .none⟩, ⟨"", "backup", .optional⟩, ⟨"S", "suffix", .required⟩]

/-- The kinds of backups by their names. -/
def backupChoices : List (String × Option BackupKind) :=
  [("none", none), ("off", none), ("simple", some .simple), ("never", some .simple), ("existing", some .existing),
   ("nil", some .existing), ("numbered", some .numbered), ("t", some .numbered)]

namespace BackupStyle

/-- How backups are made by options and by the environment, if they are. -/
def ofOptions? (name : String) (options : List Given) : ToolM (Option BackupStyle) := do
  if !(has options "b" || has options "backup" || has options "suffix") then return none
  let environment := (← get).environment
  let given := (options.filter fun given => given.1 == "backup").filterMap Prod.snd
  let kind? ← match given.getLast?.filter (!·.isEmpty) with
    | some text => readChoice name "backup type" 1 backupChoices text
    | none =>
      match (environment.lookup "VERSION_CONTROL").filter (!·.isEmpty) with
      | some text => readChoice name "$VERSION_CONTROL" 1 backupChoices text
      | none => pure (some .existing)
  let suffix := ((argument? options "suffix").or (environment.lookup "SIMPLE_BACKUP_SUFFIX")).getD "~"
  let suffix := if suffix.isEmpty || suffix.toList.contains '/' then "~" else suffix
  pure (kind?.map (⟨·, suffix⟩))

/-- The number of a backup of a name, if another name is that of one. -/
def numberIn? (name other : String) : Option Nat :=
  if other.startsWith (name ++ ".~") && other.endsWith "~" then
    natural? ((other.drop (name.length + 2)).toString.dropEnd 1).toString
  else none

/-- The path of the backup of a path. -/
def pathFor (s : BackupStyle) (d : Disk) (path : String) : String :=
  let above := (d.find (directoryName path)).toOption.getD []
  let numbers := (d.names above).filterMap (numberIn? (lastName path))
  let isNumbered := s.kind == .numbered || (s.kind == .existing && !numbers.isEmpty)
  if isNumbered then path ++ ".~" ++ toString (numbers.foldl max 0 + 1) ++ "~" else path ++ s.suffix

/-- Whether the backup of what is at a path would replace the source of a copy. -/
def wouldReplace (s : BackupStyle) (d : Disk) (follows : Bool) (source target : String) : Bool :=
  s.kind != .numbered && lastName source == lastName target ++ s.suffix &&
    (numberOf? d follows source).isSome && numberOf? d follows source == numberOf? d true (target ++ s.suffix)

end BackupStyle

end Rebuild.Tool
