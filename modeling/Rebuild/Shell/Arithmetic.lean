/-!
# Arithmetic of the shell

An expression over integers of 64 bits is written as in C: assignments, a choice, binary operators by their precedence,
signs, negations, parentheses, numbers and names of variables. `Expression.ofText` reads it, `Expression.eval` finds its
value, and the variables that it assigns: an operand that does not count is not evaluated. A text that is no expression
is read as one that is broken off, so that what comes before is evaluated before the complaint.
-/

namespace Rebuild.Shell

/-- Why an expression has no value. -/
inductive ArithmeticFault where
  /-- Something else should stand in an expression. -/
  | expecting (what : String)
  | divisionByZero
  /-- The least integer is divided by minus one, which no processor does. -/
  | overflow
  /-- The value of a variable is no number. -/
  | illegalNumber (text : String)
deriving DecidableEq, Repr

/-- The wording of a fault in an expression. -/
def ArithmeticFault.message (expression : String) : ArithmeticFault → String
  | .expecting what => s!"arithmetic expression: expecting {what}: \"{expression}\""
  | .divisionByZero => s!"arithmetic expression: division by zero: \"{expression}\""
  | .overflow => s!"arithmetic expression: overflow: \"{expression}\""
  | .illegalNumber text => s!"Illegal number: {text}"

/-- An arithmetic expression. -/
inductive Expression where
  | number (n : Int)
  | named (name : String)
  | sign (operator : Char) (a : Expression)
  | binary (operator : String) (a b : Expression)
  | both (a b : Expression)
  | either (a b : Expression)
  | choice (condition a b : Expression)
  /-- Gives a variable a value, or what an operator makes of its value and another. -/
  | assign (name : String) (operator : Option String) (a : Expression)
  /-- Something else should stand at the end, after an operand if there is one. -/
  | broken (a : Option Expression) (expected : String)
deriving Repr

namespace Expression

/-! ## Integers of 64 bits -/

/-- A power of two. -/
def twoTo (n : Nat) : Nat :=
  Nat.pow 2 n

/-- An integer of 64 bits. -/
def wrap (n : Int) : Int :=
  n.bmod (twoTo 64)

/-- The nearest integer of 64 bits. -/
def clamp (n : Int) : Int :=
  max (-(twoTo 63 : Int)) (min n ((twoTo 63 : Int) - 1))

/-- One if a condition holds, else zero. -/
def ofBool (b : Bool) : Int :=
  if b then 1 else 0

/-- The bits of an integer of 64 bits. -/
def bits (n : Int) : Nat :=
  (n % (twoTo 64 : Int)).toNat

/-- Fails if two integers cannot be divided. -/
def checkDivision (a b : Int) : Except ArithmeticFault Unit :=
  if b == 0 then .error .divisionByZero
  else if a == -(twoTo 63 : Int) && b == -1 then .error .overflow
  else .ok ()

/-- What an operator makes of two integers. -/
def operate (operator : String) (a b : Int) : Except ArithmeticFault Int :=
  match operator with
  | "|" => .ok (wrap (bits a ||| bits b : Nat))
  | "^" => .ok (wrap (bits a ^^^ bits b : Nat))
  | "&" => .ok (wrap (bits a &&& bits b : Nat))
  | "==" => .ok (ofBool (a == b))
  | "!=" => .ok (ofBool (a != b))
  | "<=" => .ok (ofBool (a ≤ b))
  | ">=" => .ok (ofBool (a ≥ b))
  | "<" => .ok (ofBool (a < b))
  | ">" => .ok (ofBool (a > b))
  | "<<" => .ok (wrap (a * (twoTo (bits b % 64) : Int)))
  | ">>" => .ok (a.fdiv (twoTo (bits b % 64)))
  | "+" => .ok (wrap (a + b))
  | "-" => .ok (wrap (a - b))
  | "*" => .ok (wrap (a * b))
  | "/" => (checkDivision a b).map fun _ => a.tdiv b
  | _ => (checkDivision a b).map fun _ => a.tmod b

/-! ## Numbers -/

/-- The value of a digit to a base of at most sixteen. -/
def digit? (base : Nat) (c : Char) : Option Nat :=
  let value :=
    if c.isDigit then c.toNat - '0'.toNat
    else if 'a' ≤ c && c ≤ 'f' then c.toNat - 'a'.toNat + 10
    else if 'A' ≤ c && c ≤ 'F' then c.toNat - 'A'.toNat + 10
    else 16
  if value < base then some value else none

/-- The number that digits at the beginning stand for, and what follows them. -/
def digits (base : Nat) (cs : List Char) : Nat × List Char :=
  let isDigit (c : Char) : Bool := (digit? base c).isSome
  ((cs.takeWhile isDigit).foldl (fun n c => base * n + (digit? base c).getD 0) 0, cs.dropWhile isDigit)

/-- The number without a sign at the beginning, to the base that its first characters tell, and what follows it. -/
def unsigned (cs : List Char) : Nat × List Char :=
  let hexadecimal (cs rest : List Char) : Nat × List Char :=
    if (rest.head?.bind (digit? 16)).isSome then digits 16 rest else digits 8 cs
  match cs with
  | '0' :: 'x' :: rest | '0' :: 'X' :: rest => hexadecimal cs rest
  | '0' :: _ => digits 8 cs
  | _ => digits 10 cs

/-- Whether a character is a blank of the system. -/
def isSpaceChar (c : Char) : Bool :=
  c == ' ' || (9 ≤ c.toNat && c.toNat ≤ 13)

/-- The integer that a whole text spells, to the base that its first characters tell. -/
def integerOf? (text : String) : Option Int :=
  let trimmed := text.toList.dropWhile isSpaceChar
  let (negative, cs) := match trimmed with
    | '-' :: cs => (true, cs)
    | '+' :: cs => (false, cs)
    | cs => (false, cs)
  let (n, rest) := unsigned cs
  let value : Int := if negative then -n else n
  let isNumber := cs.head?.any Char.isDigit || trimmed.isEmpty
  if isNumber && rest.all isSpaceChar && clamp value == value then some value else none

/-! ## Tokens -/

/-- A token of an expression. -/
inductive Token where
  | number (n : Int)
  | name (text : String)
  | operator (text : String)
deriving DecidableEq, Repr

/-- The operators, the longer before those that they begin with. -/
def operators : List String :=
  ["<<=", ">>=", "==", "!=", "<=", ">=", "<<", ">>", "&&", "||", "+=", "-=", "*=", "/=", "%=", "&=", "|=", "^=",
   "=", "<", ">", "&", "|", "^", "+", "-", "*", "/", "%", "!", "~", "?", ":", "(", ")"]

/-- The tokens of an expression; what is none becomes an operator that there is not. -/
def tokens (fuel : Nat) (cs : List Char) : List Token :=
  match fuel with
  | 0 => []
  | fuel + 1 =>
    match cs with
    | [] => []
    | c :: rest =>
      if c == ' ' || c == '\t' || c == '\n' then tokens fuel rest
      else if c.isDigit then
        let (n, rest) := unsigned cs
        .number (clamp n) :: tokens fuel rest
      else if c.isAlpha || c == '_' then
        let isPart (c : Char) : Bool := c.isAlphanum || c == '_'
        .name (String.ofList (cs.takeWhile isPart)) :: tokens fuel (cs.dropWhile isPart)
      else
        match operators.find? fun o => o.toList.isPrefixOf cs with
        | some o => .operator o :: tokens fuel (cs.drop o.length)
        | none => .operator c.toString :: tokens fuel rest

/-! ## Reading -/

/-- The binary operators that bind equally strongly, from the weakest to the strongest. -/
def levels : List (List String) :=
  [["|"], ["^"], ["&"], ["==", "!="], ["<=", ">=", "<", ">"], ["<<", ">>"], ["+", "-"], ["*", "/", "%"]]

/-- The operators of assignments, with those that they apply first. -/
def assignments : List (String × Option String) :=
  [("=", none), ("<<=", some "<<"), (">>=", some ">>"), ("+=", some "+"), ("-=", some "-"), ("*=", some "*"),
   ("/=", some "/"), ("%=", some "%"), ("&=", some "&"), ("|=", some "|"), ("^=", some "^")]

/-- An expression in the place of an operand that is missing, with nothing after it. -/
def missing : Expression × List Token :=
  (.broken none "primary", [])

mutual

/-- An assignment or a choice at the beginning, and what follows it. -/
def assignment (fuel : Nat) (ts : List Token) : Expression × List Token :=
  match fuel with
  | 0 => missing
  | fuel + 1 =>
    match ts with
    | .name name :: .operator o :: rest =>
      match assignments.lookup o with
      | some operator => (assignment fuel rest).map (.assign name operator) id
      | none => conditional fuel ts
    | ts => conditional fuel ts

/-- A choice, or what may be its condition. -/
def conditional (fuel : Nat) (ts : List Token) : Expression × List Token :=
  match fuel with
  | 0 => missing
  | fuel + 1 =>
    match logical fuel false ts with
    | (condition, .operator "?" :: ts) =>
      match assignment fuel ts with
      | (a, .operator ":" :: ts) => (conditional fuel ts).map (.choice condition a) id
      | (a, _) => (.choice condition a (.broken none "':'"), [])
    | result => result

/-- Operands joined by `||`, or by `&&` if that is asked for. -/
def logical (fuel : Nat) (isConjunction : Bool) (ts : List Token) : Expression × List Token :=
  match fuel with
  | 0 => missing
  | fuel + 1 =>
    let first := if isConjunction then level fuel levels ts else logical fuel true ts
    match first with
    | (a, .operator o :: rest) =>
      if o == (if isConjunction then "&&" else "||") then
        (logical fuel isConjunction rest).map (if isConjunction then .both a else .either a) id
      else first
    | _ => first

/-- Operands joined by operators of these levels. -/
def level (fuel : Nat) (levels : List (List String)) (ts : List Token) : Expression × List Token :=
  match fuel with
  | 0 => missing
  | fuel + 1 =>
    match levels with
    | [] => primary fuel ts
    | here :: higher =>
      let (a, ts) := level fuel higher ts
      levelAfter fuel here higher a ts

/-- What operators of a level make of a first operand. -/
def levelAfter (fuel : Nat) (here : List String) (higher : List (List String)) (a : Expression) (ts : List Token) :
    Expression × List Token :=
  match fuel with
  | 0 => missing
  | fuel + 1 =>
    match ts with
    | .operator o :: rest =>
      if here.contains o then
        let (b, ts) := level fuel higher rest
        levelAfter fuel here higher (.binary o a b) ts
      else (a, ts)
    | ts => (a, ts)

/-- A number, a name, a signed operand or an expression in parentheses. -/
def primary (fuel : Nat) (ts : List Token) : Expression × List Token :=
  match fuel with
  | 0 => missing
  | fuel + 1 =>
    match ts with
    | .number n :: ts => (.number n, ts)
    | .name name :: ts => (.named name, ts)
    | .operator "+" :: ts => primary fuel ts
    | .operator "-" :: ts => (primary fuel ts).map (.sign '-') id
    | .operator "!" :: ts => (primary fuel ts).map (.sign '!') id
    | .operator "~" :: ts => (primary fuel ts).map (.sign '~') id
    | .operator "(" :: ts =>
      match assignment fuel ts with
      | (a, .operator ")" :: ts) => (a, ts)
      | (a, _) => (.broken (some a) "')'", [])
    | _ => missing

end

/-- The expression that a text spells. -/
def ofText (text : String) : Expression :=
  let ts := tokens (text.length + 1) text.toList
  match assignment (20 * (ts.length + 2)) ts with
  | (a, []) => a
  | (a, _) => .broken (some a) "EOF"

/-- What should stand in the first place where an expression is broken off, if there is one. -/
def expected? : Expression → Option String
  | .number _ | .named _ => none
  | .sign _ a | .assign _ _ a => a.expected?
  | .binary _ a b | .both a b | .either a b => a.expected?.or b.expected?
  | .choice condition a b => (condition.expected?.or a.expected?).or b.expected?
  | .broken none expected => some expected
  | .broken (some a) expected => some (a.expected?.getD expected)

/-! ## Evaluation -/

/-- The variables that an expression assigned, the last first. -/
abbrev Assigned := List (String × Int)

/-- The value of a variable, which counts as zero if it is empty or not set. -/
def valueOf (lookup : String → Option String) (assigned : Assigned) (name : String) : Except ArithmeticFault Int :=
  match assigned.lookup name with
  | some n => .ok n
  | none =>
    let text := (lookup name).getD ""
    match integerOf? text with
    | some n => .ok n
    | none => .error (.illegalNumber text)

/-- Fails if an expression that is not evaluated is broken off. -/
def skip (e : Expression) : Except ArithmeticFault Unit :=
  match e.expected? with
  | some expected => .error (.expecting expected)
  | none => .ok ()

/-- The value of an expression, and the variables assigned after it. -/
def eval (lookup : String → Option String) (assigned : Assigned) : Expression → Except ArithmeticFault (Int × Assigned)
  | .number n => .ok (n, assigned)
  | .named name => (valueOf lookup assigned name).map (·, assigned)
  | .sign operator a => do
    let (n, assigned) ← a.eval lookup assigned
    .ok (match operator with
      | '-' => wrap (-n)
      | '!' => ofBool (n == 0)
      | _ => -n - 1, assigned)
  | .binary operator a b => do
    let (m, assigned) ← a.eval lookup assigned
    let (n, assigned) ← b.eval lookup assigned
    .ok (← operate operator m n, assigned)
  | .both a b => do
    let (m, assigned) ← a.eval lookup assigned
    if m == 0 then
      b.skip
      .ok (0, assigned)
    else
      let (n, assigned) ← b.eval lookup assigned
      .ok (ofBool (n != 0), assigned)
  | .either a b => do
    let (m, assigned) ← a.eval lookup assigned
    if m != 0 then
      b.skip
      .ok (1, assigned)
    else
      let (n, assigned) ← b.eval lookup assigned
      .ok (ofBool (n != 0), assigned)
  | .choice condition a b => do
    let (m, assigned) ← condition.eval lookup assigned
    if m != 0 then
      let result ← a.eval lookup assigned
      b.skip
      .ok result
    else
      a.skip
      b.eval lookup assigned
  | .assign name operator a => do
    let (n, assigned) ← a.eval lookup assigned
    let value ← match operator with
      | none => .ok n
      | some operator => do operate operator (← valueOf lookup assigned name) n
    .ok (value, (name, value) :: assigned)
  | .broken none expected => .error (.expecting expected)
  | .broken (some a) expected => do
    let _ ← a.eval lookup assigned
    .error (.expecting expected)

end Expression

end Rebuild.Shell
