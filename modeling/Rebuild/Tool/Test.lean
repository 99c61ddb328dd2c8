import Rebuild.Shell.Condition
import Rebuild.Tool.Input

/-!
# Tests of files, texts and numbers

`test` ends well if its arguments hold. How many arguments there are tells how they are read, up to four of them; more
are read as tests that are joined and negated.
-/

namespace Rebuild.Tool

open Shell (Condition.unary Condition.binary Condition.unaryOperators)

/-- What is wrong with the arguments of a test. -/
inductive TestFault where
  | missing (last : String)
  | noUnary (word : String)
  | noBinary (word : String)
  | noInteger (word : String)
  | extra (word : String)
  | noClosing
  | notClosing (word : String)
deriving DecidableEq, Repr

/-- The wording of what is wrong with the arguments of a test. -/
def TestFault.text : TestFault → String
  | .missing last => s!"missing argument after {Text.plainlyQuoted last}"
  | .noUnary word => s!"{Text.plainlyQuoted word}: unary operator expected"
  | .noBinary word => s!"{Text.plainlyQuoted word}: binary operator expected"
  | .noInteger word => s!"invalid integer {Text.plainlyQuoted word}"
  | .extra word => s!"extra argument {Text.plainlyQuoted word}"
  | .noClosing => "')' expected"
  | .notClosing word => s!"')' expected, found {Text.plainlyQuoted word}"

/-- The integer that a word is; blanks may stand around it. -/
def integerOf (word : String) : Except TestFault Int :=
  let isBlank (c : Char) : Bool := c == ' ' || ('\t' ≤ c && c ≤ '\r')
  let cs := word.toList.dropWhile isBlank
  let (sign, digits) : Int × List Char := match cs with
    | '-' :: rest => (-1, rest)
    | '+' :: rest => (1, rest)
    | rest => (1, rest)
  let number := digits.takeWhile Char.isDigit
  if !number.isEmpty && (digits.drop number.length).all isBlank then
    .ok (sign * (number.foldl (fun n c => 10 * n + (c.toNat - 48)) 0 : Nat))
  else .error (.noInteger word)

/-- The operators of two operands. -/
def testOperators : List String :=
  ["=", "==", "!=", "-eq", "-ne", "-ge", "-gt", "-le", "-lt", "-nt", "-ot", "-ef"]

/-- Whether a test of two operands holds. -/
def testBinary (p : Process) (a operator b : String) : Except TestFault Bool :=
  let numbers (holds : Int → Int → Bool) : Except TestFault Bool := do
    .ok (holds (← integerOf a) (← integerOf b))
  let time? (path : String) : Option Time := (p.disk.get path).toOption.map DiskNode.modified
  match operator with
  | "==" => .ok (a == b)
  | "-eq" => numbers (· == ·)
  | "-ne" => numbers (· != ·)
  | "-lt" => numbers (· < ·)
  | "-le" => numbers (· ≤ ·)
  | "-gt" => numbers (· > ·)
  | "-ge" => numbers (· ≥ ·)
  | "-nt" => .ok ((time? a).any fun x => (time? b).all fun y => y < x)
  | "-ot" => .ok ((time? b).any fun y => (time? a).all fun x => x < y)
  | operator => .ok ((Condition.binary p a operator b).toOption.getD false)

/-- Whether a test of one operand holds. -/
def testUnary (p : Process) (operator operand : String) : Except TestFault Bool :=
  if operator == "-t" then (integerOf operand).map fun _ => false
  else if operator == "-N" then .ok false
  else if Condition.unaryOperators.contains operator then
    .ok ((Condition.unary p operator operand).toOption.getD false)
  else .error (.noUnary operator)

/-- Whether a word has the form of an operator of one operand. -/
def isTestSwitch (word : String) : Bool :=
  word.startsWith "-" && word.length == 2

mutual

/-- Whether the first so many of some words hold, and the words that are left. `last` is the last word of all. -/
def testWords (p : Process) (last : String) (limit count : Nat) (words : List String) :
    Except TestFault (Bool × List String) :=
  match limit with
  | 0 => .error (.missing last)
  | limit + 1 =>
    match count, words with
    | 1, a :: rest => .ok (!a.isEmpty, rest)
    | 2, a :: b :: rest =>
      if a == "!" then .ok (b.isEmpty, rest)
      else if isTestSwitch a then (testUnary p a b).map (·, rest)
      else .error (.missing last)
    | 3, a :: b :: c :: rest =>
      if testOperators.contains b then (testBinary p a b c).map (·, rest)
      else if a == "!" then (testWords p last limit 2 (b :: c :: rest)).map fun (holds, rest) => (!holds, rest)
      else if a == "(" && c == ")" then .ok (!b.isEmpty, rest)
      else if b == "-a" || b == "-o" then testEither p last limit words
      else .error (.noBinary b)
    | 4, a :: b :: c :: d :: rest =>
      if a == "!" then (testWords p last limit 3 (b :: c :: d :: rest)).map fun (holds, rest) => (!holds, rest)
      else if a == "(" && d == ")" then
        (testWords p last limit 2 (b :: c :: d :: rest)).map fun (holds, _) => (holds, rest)
      else testEither p last limit words
    | _, _ => testEither p last limit words

/-- Whether tests that are joined by `-o` hold. -/
def testEither (p : Process) (last : String) (limit : Nat) (words : List String) :
    Except TestFault (Bool × List String) :=
  match limit with
  | 0 => .error (.missing last)
  | limit + 1 => do
    let (first, rest) ← testBoth p last limit words
    match rest with
    | "-o" :: rest =>
      let (second, rest) ← testEither p last limit rest
      .ok (first || second, rest)
    | rest => .ok (first, rest)

/-- Whether tests that are joined by `-a` hold. -/
def testBoth (p : Process) (last : String) (limit : Nat) (words : List String) :
    Except TestFault (Bool × List String) :=
  match limit with
  | 0 => .error (.missing last)
  | limit + 1 => do
    let (first, rest) ← testTerm p last limit words
    match rest with
    | "-a" :: rest =>
      let (second, rest) ← testBoth p last limit rest
      .ok (first && second, rest)
    | rest => .ok (first, rest)

/-- Whether a test, perhaps negated or in parentheses, holds. -/
def testTerm (p : Process) (last : String) (limit : Nat) (words : List String) :
    Except TestFault (Bool × List String) :=
  match limit, words with
  | 0, _ | _, [] => .error (.missing last)
  | limit + 1, word :: rest =>
    if word == "!" then
      if rest.isEmpty then .error (.missing last)
      else (testTerm p last limit rest).map fun (holds, rest) => (!holds, rest)
    else if word == "(" then
      if rest.isEmpty then .error (.missing last)
      else do
        let inner := 1 + ((rest.drop 1).takeWhile (· != ")")).length
        let (holds, rest) ← testWords p last limit (if 4 < inner then rest.length else inner) rest
        match rest with
        | [] => .error .noClosing
        | ")" :: rest => .ok (holds, rest)
        | word :: _ => .error (.notClosing word)
    else
      match rest with
      | operator :: operand :: after =>
        if testOperators.contains operator then (testBinary p word operator operand).map (·, after)
        else testSwitch p last word rest
      | rest => testSwitch p last word rest

/-- Whether a test of one operand holds, or a word is not empty. -/
def testSwitch (p : Process) (last word : String) (rest : List String) : Except TestFault (Bool × List String) :=
  if isTestSwitch word then
    match rest with
    | [] => .error (.missing last)
    | operand :: rest => (testUnary p word operand).map (·, rest)
  else .ok (!word.isEmpty, rest)

end

/-- Whether all words of a test hold. -/
def testHolds (p : Process) (words : List String) : Except TestFault Bool :=
  if words.isEmpty then .ok false
  else do
    let (holds, rest) ← testWords p (words.getLast?.getD "") (4 * words.length + 8) words.length words
    match rest with
    | [] => .ok holds
    | word :: _ => .error (.extra word)

/-- Ends well if its arguments hold. -/
def test : Tool := fun name args => do
  match testHolds (← getThe Process) args with
  | .ok holds => pure (if holds then 0 else 1)
  | .error fault => fail name fault.text 2

/-- Ends well if its arguments up to the closing bracket hold. -/
def bracketTest : Tool := fun name args =>
  if args.getLast? == some "]" then test name args.dropLast
  else if args == ["--help"] || args == ["--version"] then pure 0
  else fail name "missing ']'" 2

end Rebuild.Tool
