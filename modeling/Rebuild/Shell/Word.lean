import Rebuild.Shell.Source

/-!
# Reading words

A word is read piece by piece in a context, which says what ends it and which characters have a meaning: a single quote
has none between double quotes, a double quote has none in a here-document. How the commands of a substitution are read
is a parameter of this module.
-/

namespace Rebuild.Shell

/-- Where a word stands. -/
inductive Context where
  | plain
  /-- In the braces of a parameter. -/
  | braces
  /-- Between double quotes. -/
  | quotes
  /-- In the braces of a parameter between double quotes; within them double quotes may open once more. -/
  | quotedBraces (inner : Bool)
  /-- In an arithmetic expression, within so many parentheses. -/
  | arithmetic (depth : Nat)
  | document
  /-- In the braces of a parameter in a here-document. -/
  | documentBraces (inner : Bool)
deriving DecidableEq, Repr

namespace Context

/-- Whether what is expanded here is quoted. -/
def isQuoted : Context → Bool
  | .plain | .braces => false
  | _ => true

/-- The context of a word in the braces of a parameter here. -/
def inBraces : Context → Context
  | .plain | .braces => .braces
  | .document | .documentBraces _ => .documentBraces false
  | .quotes | .quotedBraces _ | .arithmetic _ => .quotedBraces false

/-- Whether a backslash between double quotes is dropped before a character. -/
def isEscapable (context : Context) (c : Char) : Bool :=
  c == '\\' || c == '`' || c == '$' || (c == '"' && context != .document) ||
    (c == '\x7d' && match context with
      | .quotedBraces _ | .documentBraces _ => true
      | _ => false)

end Context

/-- A piece of a word, or nothing where the text or the braces that it stands in end early. -/
abbrev Part := Option Piece

/-- The pieces up to the first place where they end early. If there is one, the parts after it go on outside, and the
end of these pieces is the next such place. -/
def cutShort : List Part → List Piece × List Part
  | [] => ([], [])
  | none :: parts => ([], parts ++ [none])
  | some piece :: parts => (cutShort parts).map (piece :: ·) id

/-- Whether a character ends an unquoted word. -/
def endsWord (c : Char) : Bool :=
  " \t\n;&|<>()".toList.contains c

namespace Reading

/-- Fails at the end of a script, or of a here-document, where a part of a word should end. -/
def failAtEnd (context : Context) : Reading α := do
  let isInDocument := (← get).ending.isSome
  match context with
  | .arithmetic _ => fail "Missing '))'"
  | .quotes | .quotedBraces _ => fail (if isInDocument then "Missing '\x7d'" else "Unterminated quoted string")
  | _ => fail "Missing '\x7d'"

/-- The text up to the next single quote, which is taken. -/
def singleQuoted : Reading String :=
  repeatUntil [] fun cs => do
    match ← takeLiterally with
    | none => failAtEnd .quotes
    | some '\'' => pure (.inr (String.ofList cs.reverse))
    | some c => pure (.inl (c :: cs))

/-- The commands up to the next backquote, which is taken: a backslash before a character with a meaning is dropped. -/
def backquoted (quoted : Bool) : Reading (List Char) :=
  repeatUntil [] fun cs => do
    match ← takeJoined with
    | none => fail "EOF in backquote substitution"
    | some '`' => pure (.inr cs.reverse)
    | some '\\' =>
      match ← take with
      | none => fail "EOF in backquote substitution"
      | some c =>
        let dropped := c == '\\' || c == '`' || c == '$' || (quoted && c == '"')
        pure (.inl (if dropped then c :: cs else c :: '\\' :: cs))
    | some c => pure (.inl (c :: cs))

/-- Takes the next character; if it is a line end, the line is not counted. -/
def takeUncounted : Reading Unit := do
  let line := (← get).line
  let _ ← take
  modify fun s => { s with line }

/-- What a parameter in braces is: its name, whether its length is meant, and whether it can be used at all. Its name
has been taken. -/
def parameterInBraces : Reading (String × Bool × Bool) := do
  let named (c : Char) : Reading String := do
    pure (String.ofList (← takeRun (if c.isDigit then Char.isDigit else isNameChar)))
  match ← peekJoined with
  | none => pure ("", false, false)
  | some c =>
    if isNameChar c then pure (← named c, false, true)
    else if c == '\x7d' then pure ("", false, false)
    else
      takeUncounted
      match c, ← peekJoined with
      | '#', some d =>
        if isNameChar d then
          let name ← named d
          pure (name, true, (← peekJoined) == some '\x7d')
        else if d == '\x7d' then pure ("#", false, true)
        else
          let s ← get
          takeUncounted
          if (← peekJoined) == some '\x7d' then pure (d.toString, true, isSpecialParameter d)
          else
            set s
            pure ("#", false, true)
      | c, _ => pure (c.toString, false, isSpecialParameter c)

section Pieces

variable (list : Reading Command)

/-- The commands of a substitution, up to its closing parenthesis. -/
def substituted : Reading Command :=
  apart do
    let command ← list
    match (← get).pushed with
    | some (.operator ")") =>
      modify fun s => { s with pushed := none }
      pure command
    | token => expecting (token.getD .endOfFile) "\")\""

/-- The commands between backquotes, up to a token that cannot go on with them; what follows it is passed over. -/
def substitutedText (text : List Char) : Reading Command :=
  within text 1 list

mutual

/-- The parts of a word up to its end in a context. -/
def pieces (fuel : Nat) (context : Context) : Reading (List Part) := do
  match fuel with
  | 0 => fail "script too long"
  | fuel + 1 =>
    let quoted := context.isQuoted
    let andRest (piece : Piece) (context : Context) : Reading (List Part) := do
      pure (some piece :: (← pieces fuel context))
    match ← peekInDocument with
    | none => if context == .plain || context == .document then pure [] else failAtEnd context
    | some c =>
      if context == .plain && endsWord c then pure []
      else
        let _ ← take
        noteLine c
        let isDelimiter := (← get).isDelimiter
        let literal := andRest (.text quoted c.toString) context
        match c, context with
        | '\\', _ =>
          match ← take with
          | none => andRest (.text true "\\") context
          | some d =>
            andRest (.text true (if quoted && !context.isEscapable d then "\\" ++ d.toString else d.toString)) context
        | '$', _ =>
          if isDelimiter then literal
          else
            let parts ← dollar fuel context
            pure (parts ++ (← pieces fuel context))
        | '`', _ =>
          if isDelimiter then literal
          else
            let text ← backquoted quoted
            andRest (.substitution quoted (← substitutedText list text)) context
        | '\'', .plain | '\'', .braces => do andRest (.text true (← singleQuoted)) context
        | '"', .plain | '"', .braces => do
          let inner ← pieces fuel .quotes
          let edge : Part := some (.text true "")
          pure (edge :: inner ++ edge :: (← pieces fuel context))
        | '"', .quotes => pure []
        | '"', .quotedBraces inner => pieces fuel (.quotedBraces !inner)
        | '"', .documentBraces inner => pieces fuel (.documentBraces !inner)
        | '\x7d', .braces | '\x7d', .quotedBraces false | '\x7d', .documentBraces false => pure []
        | '(', .arithmetic depth => andRest (.text true "(") (.arithmetic (depth + 1))
        | ')', .arithmetic 0 =>
          if (← peekJoined) == some ')' then
            let _ ← take
            pure []
          else literal
        | ')', .arithmetic (depth + 1) => andRest (.text true ")") (.arithmetic depth)
        | _, _ => literal

/-- The piece that a dollar sign begins, after it, and what it leaves to what stands around it. -/
def dollar (fuel : Nat) (context : Context) : Reading (List Part) := do
  match fuel with
  | 0 => fail "script too long"
  | fuel + 1 =>
    let quoted := context.isQuoted
    let only (piece : Piece) : List Part := [some piece]
    match ← peekJoined with
    | none => pure (only (.text quoted "$"))
    | some c =>
      if c == '(' then
        let _ ← take
        if (← peekJoined) == some '(' then
          let _ ← take
          let (expression, after) := cutShort (← pieces fuel (.arithmetic 0))
          pure (some (.arithmetic quoted expression) :: after)
        else pure (only (.substitution quoted (← substituted list)))
      else if c == '\x7b' then
        let _ ← take
        let (name, isLength, isUsable) ← parameterInBraces
        let (use, after) ← use fuel context isLength isUsable
        pure (some (.parameter quoted name use) :: after)
      else if isNameStart c then pure (only (.parameter quoted (String.ofList (← takeRun isNameChar)) .value))
      else if c.isDigit || isSpecialParameter c then
        let _ ← take
        pure (only (.parameter quoted c.toString .value))
      else pure (only (.text quoted "$"))

/-- What a parameter in braces is used for, after its name, and what it leaves to what stands around it: a colon with
nothing after it is passed over with its brace, and what comes up to the next brace is the end of the text. -/
def use (fuel : Nat) (context : Context) (isLength isUsable : Bool) : Reading (Use × List Part) := do
  match fuel with
  | 0 => fail "script too long"
  | fuel + 1 =>
    let word (make : List Piece → Use) : Reading (Use × List Part) := do
      let _ ← take
      pure ((cutShort (← pieces fuel context.inBraces)).map make id)
    let pattern (c : Char) (make : Bool → List Piece → Use) : Reading (Use × List Part) := do
      let _ ← take
      let isLongest := (← peekJoined) == some c
      if isLongest then
        let _ ← take
      pure ((cutShort (← pieces fuel .braces)).map (make isLongest) id)
    let unknown : Reading (Use × List Part) := do
      let _ ← pieces fuel context.inBraces
      pure (.unknown, [])
    if !isUsable then unknown
    else if isLength then
      let _ ← take
      pure (.length, [])
    else
      let isColon := (← peekJoined) == some ':'
      if isColon then
        let _ ← take
      match ← peekJoined, isColon with
      | some '\x7d', _ => do
        let _ ← take
        if isColon then
          let passed ← pieces fuel context.inBraces
          pure (.filledValue, passed ++ [none])
        else pure (.value, [])
      | some '-', _ => word (.orElse isColon)
      | some '=', _ => word (.orAssign isColon)
      | some '?', _ => word (.orFail isColon)
      | some '+', _ => word (.instead isColon)
      | some '#', false => pattern '#' .dropFirst
      | some '%', false => pattern '%' .dropLast
      | _, _ => do
        takeUncounted
        unknown

end

/-- The pieces of a word in a context, whatever its length. -/
def wordIn (context : Context) : Reading Word := do
  pure (cutShort (← pieces list (2 * (← get).rest.length + 3) context)).1

end Pieces

end Reading

end Rebuild.Shell
