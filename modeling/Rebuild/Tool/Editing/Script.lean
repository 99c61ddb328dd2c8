import Rebuild.Text.Regex.Parser
import Rebuild.Tool.Input

/-!
# Scripts that edit lines

A script is a list of commands. Each has a selection of lines for which it is done, and a command may go on with another
than the next: a block is jumped over for lines that are not selected, and a label may be gone to.
-/

namespace Rebuild.Tool.Editing

open Text

/-- What lines are compared with: an expression, or the one that was used last. -/
structure Matcher where
  pattern : Option Regex
  ignoresCase : Bool
  hasLines : Bool
deriving Repr

/-- Which line is meant. -/
inductive Address where
  | line (number : Nat)
  /-- Every line that is so many steps after the first. -/
  | every (first step : Nat)
  | last
  | matching (m : Matcher)
deriving Repr

/-- Where a range of lines ends. -/
inductive Bound where
  | address (a : Address)
  /-- So many lines after its first. -/
  | further (count : Nat)
  /-- At the next line whose number is a multiple. -/
  | multiple (of : Nat)
deriving Repr

/-- The lines for which a command is done. -/
inductive Selection where
  | all
  | one (a : Address)
  | range (first : Address) (last : Bound)
deriving Repr

/-- How letters that follow are written. -/
inductive CaseChange where
  | upper
  | lower
  /-- Only the next one. -/
  | upperOnce
  | lowerOnce
  /-- As they are. -/
  | none
deriving DecidableEq, Repr

/-- A part of what a match is replaced with. -/
inductive Piece where
  | chars (cs : Line)
  | group (number : Nat)
  | letters (change : CaseChange)
deriving Repr

/-- The replacement of matches. -/
structure Substitution where
  matcher : Matcher
  replacement : List Piece
  /-- The number of the first match that is replaced. -/
  first : Nat
  /-- Whether the matches after it are replaced, too. -/
  isGlobal : Bool
  prints : Bool
  /-- Where the line is written if something was replaced. -/
  target : Option String
deriving Repr

/-- When a command goes to a label. -/
inductive JumpRule where
  | always
  | ifReplaced
  | unlessReplaced
deriving DecidableEq, Repr

/-- What a command does. -/
inductive Action where
  | nothing
  /-- Begins a block. -/
  | block
  | jump (rule : JumpRule) (label : Line)
  | append (text : Line)
  | insert (text : Line)
  | change (text : Line)
  | delete
  | deleteFirst
  | print
  | printFirst
  | next
  | appendNext
  /-- To the hold space, and after what it holds. -/
  | hold
  | holdMore
  /-- From the hold space, and after the line. -/
  | take
  | takeMore
  | exchange
  | quit (prints : Bool) (code : Nat)
  | readFile (path : String)
  | readLine (path : String)
  | writeTo (path : String)
  | writeFirst (path : String)
  | substitute (s : Substitution)
  | replaceChars (pairs : List (Char × Char))
  | number
  | list (width : Option Nat)
  | fileName
  | clear
deriving Repr

/-- A command: what it does, and for which lines, or for all but which. -/
structure EditCommand where
  selection : Selection
  negated : Bool
  action : Action
deriving Repr

/-- A script: its commands, and by their places the blocks with their ends, and the labels. -/
structure Script where
  commands : Array EditCommand
  blocks : List (Nat × Nat)
  labels : List (Line × Nat)
  /-- Whether its first line says that lines are printed only on command. -/
  isQuiet : Bool
deriving Repr

namespace Script

/-- The files that are written to. -/
def targets (s : Script) : List String :=
  s.commands.toList.filterMap fun c =>
    match c.action with
    | .writeTo path | .writeFirst path => some path
    | .substitute s => s.target
    | _ => none

/-- A label that is gone to and is not there. -/
def missingLabel? (s : Script) : Option Line :=
  s.commands.toList.findSome? fun c =>
    match c.action with
    | .jump _ label => if label.isEmpty || (s.labels.lookup label).isSome then none else some label
    | _ => none

end Script

end Rebuild.Tool.Editing
