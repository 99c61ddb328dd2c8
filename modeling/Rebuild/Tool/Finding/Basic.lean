import Rebuild.Text.Regex.Parser
import Rebuild.Tool.Permissions

/-!
# Expressions over files

An expression is made of checks, which hold or fail for a file and may do something with it. They are joined by `not`,
`and`, `or`, and by commas, of which the last part counts.
-/

namespace Rebuild.Tool.Finding

/-- What a number is compared with. -/
inductive Bound where
  | exactly (n : Nat)
  | more (n : Nat)
  | less (n : Nat)
deriving DecidableEq, Repr

/-- Whether a number lies within a bound. -/
def Bound.holds (b : Bound) (n : Nat) : Bool :=
  match b with
  | .exactly m => n == m
  | .more m => m < n
  | .less m => n < m

/-- How permissions are compared with others. -/
inductive ModeTest where
  | exactly
  /-- All of the bits are set. -/
  | all
  /-- One of the bits is set, if there are any. -/
  | any
deriving DecidableEq, Repr

/-- Whether permissions compare with others in this way. -/
def ModeTest.holds (test : ModeTest) (wanted mode : Nat) : Bool :=
  match test with
  | .exactly => mode == wanted
  | .all => mode &&& wanted == wanted
  | .any => wanted == 0 || mode &&& wanted != 0

/-- The part of a file's path that a pattern is compared with. -/
inductive Part where
  | name
  | path
  /-- What a symbolic link holds. -/
  | link
deriving DecidableEq, Repr

/-- What holds for a file, or is done with it. -/
inductive Check where
  | constant (value : Bool)
  | pattern (part : Part) (ignoresCase : Bool) (text : String)
  | regex (r : Text.Regex) (ignoresCase : Bool)
  /-- The letter of the kind is one of some; that beyond a symbolic link if that is asked for. -/
  | kind (isBeyond : Bool) (letters : List Char)
  | size (bound : Bound) (unit : Nat)
  | links (bound : Bound)
  /-- The age in a unit of nanoseconds. -/
  | age (bound : Bound) (unit : Nat)
  | newer (time : Nat)
  | empty
  | mode (test : ModeTest) (bits : Nat)
  | owned (isRoot : Bool)
  | number (bound : Bound)
  | executable
  | print (ending : String)
  | format (text : String)
  /-- Runs a program, whose success counts; in the directory of the file if that is asked for, and only if the user
  agrees if that is. -/
  | run (isInside asks : Bool) (words : List String)
  /-- Keeps the file for a program that is run for many at a time. -/
  | collect (index : Nat)
  | delete
  | prune
  | quit
deriving Repr

/-- An expression. -/
inductive Expression where
  | check (c : Check)
  | not (e : Expression)
  | and (a b : Expression)
  | or (a b : Expression)
  | comma (a b : Expression)
deriving Repr

/-- Which symbolic links are followed. -/
inductive Following where
  | never
  | operands
  | always
deriving DecidableEq, Repr

/-- How files are visited. -/
structure Plan where
  following : Following
  most : Option Nat
  least : Nat
  /-- Whether a directory comes after what is in it. -/
  isDeep : Bool
  /-- The programs that are run for many files at a time, with their arguments, the last first. -/
  collectors : List (Bool × List String)
  /-- Whether an action was asked for. -/
  acts : Bool

end Rebuild.Tool.Finding
