import Rebuild.Shell.Arithmetic
import Rebuild.Process

/-!
# Conditions

A condition is a list of words: comparisons of texts and integers, tests of files, joined by `-a` and `-o`, negated and
in parentheses. A word that could be an operator is an operand where the words after it ask for that.
-/

namespace Rebuild.Shell.Condition

/-- What kind of operator a word can be. -/
inductive Kind where
  | unary
  | binary
  | negation
  | conjunction
  | disjunction
  | opening
  | closing
deriving DecidableEq, Repr

/-- The operators of one operand. -/
def unaryOperators : List String :=
  ["-b", "-c", "-d", "-e", "-f", "-G", "-g", "-h", "-k", "-L", "-n", "-O", "-p", "-r", "-S", "-s", "-t", "-u", "-w",
    "-x",
   "-z"]

/-- The operators of two operands. -/
def binaryOperators : List String :=
  ["=", "!=", "<", ">", "-eq", "-ne", "-ge", "-gt", "-le", "-lt", "-nt", "-ot", "-ef"]

/-- The kind of operator that a word can be. -/
def kind? (word : String) : Option Kind :=
  match word with
  | "!" => some .negation
  | "-a" => some .conjunction
  | "-o" => some .disjunction
  | "(" => some .opening
  | ")" => some .closing
  | _ =>
    if unaryOperators.contains word then some .unary
    else if binaryOperators.contains word then some .binary
    else none

/-- Whether the words after an operator make it an operand. -/
def isOperand (after : List String) : Bool :=
  match after with
  | [] => true
  | [_] => false
  | next :: _ => kind? next == some .binary

/-- The kind of operator that the first word is here. -/
def kindHere? (words : List String) : Option Kind :=
  match words with
  | [] => none
  | word :: after =>
    match kind? word with
    | some .unary => if isOperand after then none else some .unary
    | some .opening => if after.isEmpty then none else some .opening
    | kind => kind

/-! ## Tests -/

/-- What is wrong with a condition. -/
inductive Fault where
  | noInteger (word : String)
  | noOperand (operator : String)
  | noClosing
  | unexpected (word : String)
deriving DecidableEq, Repr

/-- The wording of what is wrong with a condition. -/
def Fault.text : Fault → String
  | .noInteger word => s!"Illegal number: {word}"
  | .noOperand operator => s!"{operator}: argument expected"
  | .noClosing => "closing paren expected"
  | .unexpected word => if word.isEmpty then "unexpected operator" else s!"{word}: unexpected operator"

/-- The integer that a word is. -/
def integer (word : String) : Except Fault Int :=
  let cs := word.toList.dropWhile Expression.isSpaceChar
  let (negative, cs) := match cs with
    | '-' :: cs => (true, cs)
    | '+' :: cs => (false, cs)
    | cs => (false, cs)
  let (n, rest) := Expression.digits 10 cs
  let value : Int := if negative then -n else n
  if cs.head?.any Char.isDigit && rest.all Expression.isSpaceChar && Expression.clamp value == value then .ok value
  else .error (.noInteger word)

/-- Whether a test of one operand holds. -/
def unary (p : Process) (operator word : String) : Except Fault Bool :=
  let node := p.disk.get word
  let isItem (is : DiskItem → Bool) : Bool :=
    match node with
    | .ok node => is node.item
    | .error _ => false
  match operator with
  | "-z" => .ok word.isEmpty
  | "-n" => .ok !word.isEmpty
  | "-e" | "-r" | "-w" | "-O" | "-G" => .ok node.toOption.isSome
  | "-f" => .ok (isItem fun
    | .file _ | .program _ => true
    | _ => false)
  | "-d" => .ok (isItem fun
    | .directory => true
    | _ => false)
  | "-c" => .ok (isItem fun
    | .device _ => true
    | _ => false)
  | "-s" => .ok (isItem fun
    | .file content => content.size != 0
    | .directory | .program _ => true
    | _ => false)
  | "-x" => .ok (node.toOption.any DiskNode.isExecutable)
  | "-u" => .ok (node.toOption.any fun node => node.mode &&& 0o4000 != 0)
  | "-g" => .ok (node.toOption.any fun node => node.mode &&& 0o2000 != 0)
  | "-k" => .ok (node.toOption.any fun node => node.mode &&& 0o1000 != 0)
  | "-h" | "-L" => .ok (match p.disk.getName word with
    | .ok ⟨.link _, _, _⟩ => true
    | _ => false)
  | "-t" => (integer word).map fun _ => false
  | _ => .ok false

/-- Whether a test of two operands holds. -/
def binary (p : Process) (a operator b : String) : Except Fault Bool :=
  let numbers (holds : Int → Int → Bool) : Except Fault Bool := do
    .ok (holds (← integer a) (← integer b))
  let number? (path : String) : Option Nat := (p.disk.find path).toOption.bind p.disk.number?
  match operator with
  | "=" => .ok (a == b)
  | "!=" => .ok (a != b)
  | "<" => .ok (a < b)
  | ">" => .ok (b < a)
  | "-eq" => numbers (· == ·)
  | "-ne" => numbers (· != ·)
  | "-lt" => numbers (· < ·)
  | "-le" => numbers (· ≤ ·)
  | "-gt" => numbers (· > ·)
  | "-ge" => numbers (· ≥ ·)
  | "-ef" => .ok ((number? a).isSome && number? a == number? b)
  | _ =>
    match p.disk.get a, p.disk.get b with
    | .ok x, .ok y => .ok (if operator == "-nt" then x.modified > y.modified else x.modified < y.modified)
    | _, _ => .ok false

/-! ## Conditions -/

mutual

/-- Whether words at the beginning, joined by `-o`, hold, and the words from the last that was used. -/
def disjunction (fuel : Nat) (p : Process) (words : List String) : Except Fault (Bool × List String) :=
  match fuel with
  | 0 => .ok (false, [])
  | fuel + 1 => do
    let (first, last) ← conjunction fuel p words
    match kindHere? last.tail with
    | some .disjunction =>
      let (second, last) ← disjunction fuel p (last.drop 2)
      .ok (first || second, last)
    | _ => .ok (first, last)

/-- Whether words at the beginning, joined by `-a`, hold. -/
def conjunction (fuel : Nat) (p : Process) (words : List String) : Except Fault (Bool × List String) :=
  match fuel with
  | 0 => .ok (false, [])
  | fuel + 1 => do
    let (first, last) ← negation fuel p words
    match kindHere? last.tail with
    | some .conjunction =>
      let (second, last) ← conjunction fuel p (last.drop 2)
      .ok (first && second, last)
    | _ => .ok (first, last)

/-- Whether words at the beginning, perhaps negated, hold. -/
def negation (fuel : Nat) (p : Process) (words : List String) : Except Fault (Bool × List String) :=
  match fuel with
  | 0 => .ok (false, [])
  | fuel + 1 => do
    if kindHere? words == some .negation then
      if words.tail.isEmpty then .ok (true, words)
      else
        let (holds, last) ← negation fuel p words.tail
        .ok (!holds, last)
    else primary fuel p words

/-- Whether a test or words in parentheses hold. -/
def primary (fuel : Nat) (p : Process) (words : List String) : Except Fault (Bool × List String) :=
  match fuel with
  | 0 => .ok (false, [])
  | fuel + 1 =>
    match words with
    | [] => .ok (false, [])
    | word :: after =>
      match kindHere? words with
      | some .opening =>
        if kindHere? after == some .closing then .ok (false, after)
        else do
          let (holds, last) ← disjunction fuel p after
          if kindHere? last.tail == some .closing then .ok (holds, last.tail) else .error .noClosing
      | some .unary =>
        match after with
        | [] => .error (.noOperand word)
        | operand :: _ => (unary p word operand).map (·, after)
      | _ =>
        match after with
        | operator :: rest =>
          if kindHere? after == some .binary then
            match rest with
            | [] => .error (.noOperand operator)
            | operand :: _ => (binary p word operator operand).map (·, rest)
          else .ok (!word.isEmpty, words)
        | [] => .ok (!word.isEmpty, words)

end

/-- Whether the words of a condition hold. -/
def holds (p : Process) (words : List String) : Except Fault Bool :=
  let whole (words : List String) (isBinary : Bool) : Except Fault Bool := do
    let (result, last) ←
      match isBinary, words with
      | true, a :: operator :: b :: _ => (binary p a operator b).map (·, [b])
      | _, _ => disjunction (6 * words.length + 6) p words
    match last with
    | word :: _ :: _ => .error (.unexpected word)
    | _ => .ok result
  let few (words : List String) : Except Fault Bool :=
    match words with
    | [] => .ok false
    | ["(", a, ")"] => whole [a] false
    | ["(", a, b, ")"] => whole [a, b] false
    | words => whole words false
  match words with
  | [a, operator, b] =>
    if kind? operator == some .binary then whole words true
    else if a == "!" then (few [operator, b]).map not
    else few words
  | ["!", a, b, c] =>
    if kind? b == some .binary then (whole [a, b, c] true).map not
    else if a == "!" then (few [b, c]).map not
    else (few [a, b, c]).map not
  | words => few words

end Rebuild.Shell.Condition
