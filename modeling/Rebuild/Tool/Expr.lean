import Rebuild.Text.Regex.Parser
import Rebuild.Tool.Order

/-!
# Expressions in arguments

`expr` prints the value of an expression, of which each argument is a word. A value is a text; one that spells an
integer counts as that integer where that matters.
-/

namespace Rebuild.Tool.Expr

open Text

/-- What is wrong with an expression. -/
inductive Fault where
  | missing (last : String)
  | unexpected (word : String)
  | unexpectedClosing
  | noClosing (last : String)
  | notClosing (word : String)
  | noInteger
  | divisionByZero
  | pattern (fault : Regex.Fault)
deriving DecidableEq, Repr

/-- The wording of what is wrong with an expression. -/
def Fault.text : Fault → String
  | .missing last => s!"syntax error: missing argument after {plainlyQuoted last}"
  | .unexpected word => s!"syntax error: unexpected argument {plainlyQuoted word}"
  | .unexpectedClosing => "syntax error: unexpected ')'"
  | .noClosing last => s!"syntax error: expecting ')' after {plainlyQuoted last}"
  | .notClosing word => s!"syntax error: expecting ')' instead of {plainlyQuoted word}"
  | .noInteger => "non-integer argument"
  | .divisionByZero => "division by zero"
  | .pattern fault => fault.text

/-- The words that are left, and the last one that was taken. -/
structure Reading where
  rest : List String
  last : String

/-- What is read from an expression. -/
abbrev ReadingM := StateT Reading (Except Fault)

/-- The integer that a text spells. -/
def integer? (text : String) : Option Int :=
  let (sign, digits) : Int × List Char := match text.toList with
    | '-' :: rest => (-1, rest)
    | rest => (1, rest)
  if !digits.isEmpty && digits.all Char.isDigit then
    some (sign * (digits.foldl (fun n c => 10 * n + (c.toNat - 48)) 0 : Nat))
  else none

/-- Whether a value is empty or zero. -/
def isNull (text : String) : Bool :=
  text.isEmpty || integer? text == some 0

/-- The value that a text makes with a pattern: what its group matched, or how much was matched. -/
def matched (text pattern : String) : Except Fault String :=
  match Regex.ofText? ⟨false, true, true⟩ (byteChars pattern) with
  | .error fault => .error (.pattern fault)
  | .ok parsed =>
    let subject : Regex.Subject := ⟨(byteChars text).toArray, false, true⟩
    let found := parsed.regex.matchAt? subject 0
    if parsed.groups == 0 then .ok (toString ((found.map Regex.Match.last).getD 0))
    else
      .ok (match found.bind (·.group? 1) with
        | some (first, last) => ofByteChars (subject.stretch first last)
        | none => "")

/-- Whether a comparison of two texts holds. -/
def compared (operator a b : String) : Bool :=
  let order : Ordering := match integer? a, integer? b with
    | some a, some b => compare a b
    | _, _ => compareBytes (byteChars a) (byteChars b)
  match operator with
  | "<" => order == .lt
  | "<=" => order != .gt
  | "=" | "==" => order == .eq
  | "!=" => order != .eq
  | ">=" => order != .lt
  | _ => order == .gt

/-- The part of a text from a place on, of a length. -/
def part (text place length : String) : String :=
  match integer? place, integer? length with
  | some place, some length =>
    if place < 1 || length < 1 then ""
    else ofByteChars (((byteChars text).drop (place.toNat - 1)).take length.toNat)
  | _, _ => ""

/-- The first place in a text of one of some characters. -/
def placeIn (text characters : String) : Nat :=
  let wanted := byteChars characters
  match (byteChars text).findIdx? wanted.contains with
  | some i => i + 1
  | none => 0

/-- Takes a word if it is one of some. -/
def takeOneOf (words : List String) : ReadingM (Option String) := do
  match (← get).rest with
  | word :: rest =>
    if words.contains word then
      set (⟨rest, word⟩ : Reading)
      pure (some word)
    else pure none
  | [] => pure none

/-- Takes the next word. -/
def takeWord : ReadingM String := do
  match (← get).rest with
  | word :: rest => do
    set (⟨rest, word⟩ : Reading)
    pure word
  | [] => throw (.missing (← get).last)

/-- The result of an operation on integers. -/
def calculated (operator a b : String) : Except Fault String :=
  match integer? a, integer? b with
  | some a, some b =>
    match operator with
    | "+" => .ok (toString (a + b))
    | "-" => .ok (toString (a - b))
    | "*" => .ok (toString (a * b))
    | "/" => if b == 0 then .error .divisionByZero else .ok (toString (a.tdiv b))
    | _ => if b == 0 then .error .divisionByZero else .ok (toString (a.tmod b))
  | _, _ => .error .noInteger

/-- The operators from the one that binds most to the one that binds least. -/
def operators : List (List String) :=
  [[":"], ["*", "/", "%"], ["+", "-"], ["<", "<=", "=", "==", "!=", ">=", ">"], ["&"], ["|"]]

/-- The value that an operator makes of two values, if values count. -/
def applied (counts : Bool) (operator a b : String) : Except Fault String :=
  match operator with
  | "&" => .ok (if isNull a || isNull b then "0" else a)
  | "|" => .ok (if !isNull a then a else if isNull b then "0" else b)
  | operator =>
    if !counts then .ok a
    else
      match operator with
      | ":" => matched a b
      | "+" | "-" | "*" | "/" | "%" => calculated operator a b
      | operator => .ok (if compared operator a b then "1" else "0")

mutual

/-- The value of words with operators up to a level. -/
def level (limit : Nat) (counts : Bool) (depth : Nat) : ReadingM String := do
  match limit, depth with
  | 0, _ => throw (.missing (← get).last)
  | limit + 1, 0 => operand limit counts
  | limit + 1, depth + 1 => do
    let first ← level limit counts depth
    more limit counts depth first

/-- The value of what stands before, with the operators of a level that follow. -/
def more (limit : Nat) (counts : Bool) (depth : Nat) (before : String) : ReadingM String := do
  match limit, ← takeOneOf (operators[depth]?.getD []) with
  | 0, _ | _, none => pure before
  | limit + 1, some operator => do
    let goesOn := match operator with
      | "&" => counts && !isNull before
      | "|" => counts && isNull before
      | _ => counts
    let after ← level limit goesOn depth
    match applied counts operator before after with
    | .ok value => more limit counts depth value
    | .error fault => throw fault

/-- The value of a word, of a function, or of words in parentheses. -/
def operand (limit : Nat) (counts : Bool) : ReadingM String := do
  match limit, ← takeOneOf ["+", "length", "match", "index", "substr", "(", ")"] with
  | 0, _ => throw (.missing (← get).last)
  | _, some "+" => takeWord
  | limit + 1, some "length" => do
    pure (toString (byteLength (← operand limit counts)))
  | limit + 1, some "match" => do
    let a ← operand limit counts
    let b ← operand limit counts
    match applied counts ":" a b with
    | .ok value => pure value
    | .error fault => throw fault
  | limit + 1, some "index" => do
    let a ← operand limit counts
    let b ← operand limit counts
    pure (toString (placeIn a b))
  | limit + 1, some "substr" => do
    let a ← operand limit counts
    let b ← operand limit counts
    let c ← operand limit counts
    pure (part a b c)
  | limit + 1, some "(" => do
    let value ← level limit counts operators.length
    match (← get).rest with
    | [] => throw (.noClosing (← get).last)
    | ")" :: rest => do
      set (⟨rest, ")"⟩ : Reading)
      pure value
    | word :: _ => throw (.notClosing word)
  | _, some _ => throw .unexpectedClosing
  | _, none => takeWord

end

/-- The value of an expression. -/
def value (words : List String) : Except Fault String := do
  let (result, r) ← (level (20 * words.length + 20) true operators.length).run ⟨words, ""⟩
  match r.rest with
  | [] => .ok result
  | word :: _ => .error (.unexpected word)

end Expr

/-- Prints the value of an expression; it ends well if that is neither empty nor zero. -/
def expr : Tool := fun name args => do
  let words := if args.head? == some "--" then args.drop 1 else args
  if args == ["--help"] || args == ["--version"] then quit 0
  if words.isEmpty then failWithHelp name "missing operand" 2
  match Expr.value words with
  | .error fault => fail name fault.text 2
  | .ok text =>
    say name (text ++ "\n")
    pure (if Expr.isNull text then 1 else 0)

end Rebuild.Tool
