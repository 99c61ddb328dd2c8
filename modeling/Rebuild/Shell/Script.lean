import Rebuild.Process

/-!
# Shell scripts

A script is a sequence of commands. The words of a command are written in pieces: texts, parameters, command
substitutions and arithmetic, each quoted or not. A command notes the line that its complaints name.
-/

namespace Rebuild.Shell

mutual

/-- A piece of a word. -/
inductive Piece where
  | text (quoted : Bool) (s : String)
  | parameter (quoted : Bool) (name : String) (use : Use)
  | substitution (quoted : Bool) (command : Command)
  | arithmetic (quoted : Bool) (expression : List Piece)

/-- What a parameter is used for. -/
inductive Use where
  | value
  /-- The value, which a strict shell takes for none if it is empty. -/
  | filledValue
  | length
  /-- The value, or a word if the parameter is not set or, with a colon, empty. -/
  | orElse (colon : Bool) (word : List Piece)
  /-- The value, after it was set to a word if the parameter was not set or, with a colon, empty. -/
  | orAssign (colon : Bool) (word : List Piece)
  /-- The value, which has to be there; else a word is the complaint. -/
  | orFail (colon : Bool) (word : List Piece)
  /-- A word if the parameter is set and, with a colon, not empty. -/
  | instead (colon : Bool) (word : List Piece)
  /-- The value without a beginning that matches a pattern. -/
  | dropFirst (longest : Bool) (pattern : List Piece)
  /-- The value without an end that matches a pattern. -/
  | dropLast (longest : Bool) (pattern : List Piece)
  /-- A use that there is not, which fails when it is run. -/
  | unknown

/-- A redirection of the stream with a number. -/
inductive Redirection where
  /-- To or from a file; `overwrite` tells that a file may be written anew although that was forbidden. -/
  | file (stream : Nat) (access : Access) (overwrite : Bool) (path : List Piece)
  /-- To where another stream leads, or nowhere. -/
  | duplicate (stream : Nat) (source : List Piece)
  /-- From a text of the script. -/
  | document (stream : Nat) (text : List Piece)

/-- A command. -/
inductive Command where
  | skip
  | simple (line : Nat) (assignments : List (String × List Piece)) (words : List (List Piece))
      (redirections : List Redirection)
  | sequence (first second : Command)
  | both (first second : Command)
  | either (first second : Command)
  | negation (command : Command)
  | pipeline (commands : List Command)
  | subshell (line : Nat) (body : Command) (redirections : List Redirection)
  /-- Runs without being waited for. -/
  | background (line : Nat) (body : Command)
  | redirected (line : Nat) (body : Command) (redirections : List Redirection)
  | ifElse (condition yes no : Command)
  /-- Repeats while the condition succeeds, or until it does. -/
  | loop (untilSuccess : Bool) (condition body : Command)
  /-- Runs for each field of some words, or for each argument. -/
  | forEach (line : Nat) (name : String) (words : Option (List (List Piece))) (body : Command)
  | select (line : Nat) (subject : List Piece) (arms : List (List (List Piece) × Command))
  /-- Defines a function. -/
  | define (name : String) (body : Command)

end

/-- A word in pieces. -/
abbrev Word := List Piece

/-! ## Names -/

/-- Whether a name may begin with a character. -/
def isNameStart (c : Char) : Bool :=
  c.isAlpha || c == '_'

/-- Whether a name may go on with a character. -/
def isNameChar (c : Char) : Bool :=
  c.isAlphanum || c == '_'

/-- Whether a text is a name. -/
def isName (text : String) : Bool :=
  text.toList.head?.any isNameStart && text.toList.all isNameChar

/-- Whether a character is a parameter by itself, apart from digits. -/
def isSpecialParameter (c : Char) : Bool :=
  "@*#?$!-".toList.contains c

/-! ## Words -/

/-- The text of a word none of which is quoted or substituted. -/
def plainText? (pieces : Word) : Option String :=
  pieces.foldlM (fun text piece =>
    match piece with
    | .text false s => some (text ++ s)
    | _ => none) ""

/-- The name and the value of a word that is an assignment. -/
def assignment? (pieces : Word) : Option (String × Word) :=
  let isNamePiece : Piece → Bool
    | .text false s => s.toList.all isNameChar
    | _ => false
  match plainText? (pieces.takeWhile isNamePiece), pieces.dropWhile isNamePiece with
  | some name, .text false "=" :: value => if isName name then some (name, value) else none
  | _, _ => none

end Rebuild.Shell
