import Rebuild.Text.Regex.Basic

/-!
# Reading regular expressions

There are two ways to write them. In the basic one parentheses, braces and bars have a meaning after a backslash, in the
extended one without it. A letter after a backslash may stand for a class of characters or for an edge. Where nothing
stands before an operator that repeats, it is idle, or a fault if the rules are strict.
-/

namespace Rebuild.Text.Regex

/-- Why a text is no regular expression. -/
inductive Fault where
  | unmatchedBracket
  | unmatchedOpening
  | unmatchedClosing
  | unmatchedBrace
  | badBrace
  | badRepetition
  | badClass
  | badRange
  | badReference
  | badCollation
  | badExpression
  | tooBig
  | classSyntax
  | trailingBackslash
deriving DecidableEq, Repr

/-- The wording of why a text is no regular expression. -/
def Fault.text : Fault → String
  | .unmatchedBracket => "Unmatched [, [^, [:, [., or [="
  | .unmatchedOpening => "Unmatched ( or \\("
  | .unmatchedClosing => "Unmatched ) or \\)"
  | .unmatchedBrace => "Unmatched \\\x7b"
  | .badBrace => "Invalid content of \\\x7b\\\x7d"
  | .badRepetition => "Invalid preceding regular expression"
  | .badClass => "Invalid character class name"
  | .badRange => "Invalid range end"
  | .badReference => "Invalid back reference"
  | .badCollation => "Invalid collation character"
  | .badExpression => "Invalid regular expression"
  | .tooBig => "Regular expression too big"
  | .classSyntax => "character class syntax is [[:space:]], not [:space:]"
  | .trailingBackslash => "Trailing backslash"

/-- How expressions are written. -/
structure Style where
  isExtended : Bool
  /-- Whether an operator with nothing before it is a fault. -/
  isStrict : Bool
  /-- Whether repetitions may follow each other even where the rules of basic expressions are strict. -/
  isRepeatable : Bool
deriving DecidableEq, Repr

/-- What is left of a text, the groups that were opened and closed, and the operators that are idle, the last first. -/
structure Reading where
  rest : List Char
  opened : Nat
  closed : List Nat
  idle : List Char

/-- What is read from a text. -/
abbrev ReadingM := StateT Reading (Except Fault)

/-- The ranges of a class with a name. -/
def classRanges? (name : String) : Option (List (Char × Char)) :=
  match name with
  | "alpha" => some [('A', 'Z'), ('a', 'z')]
  | "digit" => some [('0', '9')]
  | "alnum" => some [('0', '9'), ('A', 'Z'), ('a', 'z')]
  | "upper" => some [('A', 'Z')]
  | "lower" => some [('a', 'z')]
  | "blank" => some [(' ', ' '), ('\t', '\t')]
  | "space" => some [(' ', ' '), ('\t', '\r')]
  | "punct" => some [('!', '/'), (':', '@'), ('[', Char.ofNat 96), (Char.ofNat 123, '~')]
  | "print" => some [(' ', '~')]
  | "graph" => some [('!', '~')]
  | "cntrl" => some [('\x00', '\x1f'), ('\x7f', '\x7f')]
  | "xdigit" => some [('0', '9'), ('A', 'F'), ('a', 'f')]
  | _ => none

/-- The ranges of words. -/
def wordRanges : List (Char × Char) :=
  [('0', '9'), ('A', 'Z'), ('_', '_'), ('a', 'z')]

/-- The next character, without taking it. -/
def peek : ReadingM (Option Char) := do
  pure (← get).rest.head?

/-- Takes so many characters. -/
def drop (count : Nat) : ReadingM Unit :=
  modify fun s => { s with rest := s.rest.drop count }

/-! ## Brackets -/

/-- An item between brackets that stands for one character, or the ranges of a class. -/
def bracketItem : ReadingM (Sum Char (List (Char × Char))) := do
  let inner (mark : Char) (after : List Char) : ReadingM String := do
    let name := after.takeWhile (· != mark)
    match after.drop name.length with
    | _ :: ']' :: rest =>
      modify fun s => { s with rest }
      pure (String.ofList name)
    | _ => throw .unmatchedBracket
  match (← get).rest with
  | [] => throw .unmatchedBracket
  | '[' :: ':' :: after => do
    match classRanges? (← inner ':' after) with
    | some ranges => pure (.inr ranges)
    | none => throw .badClass
  | '[' :: '=' :: after | '[' :: '.' :: after => do
    match (← inner (if (← get).rest[1]? == some '=' then '=' else '.') after).toList with
    | [c] => pure (.inl c)
    | _ => throw .badCollation
  | c :: rest => do
    modify fun s => { s with rest }
    pure (.inl c)

/-- The ranges between brackets up to the closing one, which is taken. -/
def bracketRanges (limit : Nat) (isFirst : Bool) (ranges : List (Char × Char)) : ReadingM (List (Char × Char)) := do
  match limit, (← get).rest with
  | 0, _ | _, [] => throw .unmatchedBracket
  | limit + 1, c :: rest =>
    if c == ']' && !isFirst then
      modify fun s => { s with rest }
      pure ranges.reverse
    else
      match ← bracketItem with
      | .inr more => bracketRanges limit false (more.reverse ++ ranges)
      | .inl a =>
        match (← get).rest with
        | '-' :: ']' :: _ => bracketRanges limit false ((a, a) :: ranges)
        | '-' :: _ => do
          drop 1
          match ← bracketItem with
          | .inl b => if b < a then throw .badRange else bracketRanges limit false ((a, b) :: ranges)
          | .inr _ => throw .badRange
        | _ => bracketRanges limit false ((a, a) :: ranges)

/-- Whether a class is named between brackets of which one pair is missing. -/
def namesClass (inner : List Char) : Bool :=
  1 < inner.length && inner.head? == some ':' && inner.getLast? == some ':'

/-- What brackets stand for, after the opening one. -/
def bracket : ReadingM Regex := do
  let negated := (← peek) == some '^'
  if negated then drop 1
  let before := (← get).rest
  if before.isEmpty then throw .badExpression
  let ranges ← bracketRanges (before.length + 1) true []
  if !negated && namesClass (before.take (before.length - (← get).rest.length - 1)) then throw .classSyntax
  pure (.oneOf negated ranges)

/-! ## Repetitions -/

/-- The number that digits spell, the least and the greatest count of a repetition. -/
abbrev Count := Nat × Option Nat

/-- The count between braces, from what stands between them. -/
def countOf? (inner : List Char) : Option Count :=
  let number (cs : List Char) : Option (Option Nat) :=
    if cs.isEmpty then some none
    else if cs.all Char.isDigit then some (some (cs.foldl (fun n c => 10 * n + (c.toNat - 48)) 0))
    else none
  match inner.splitOnP (· == ',') with
  | [exact] =>
    match number exact with
    | some (some n) => some (n, some n)
    | _ => none
  | [least, most] =>
    match number least, number most with
    | some least, some most => some (least.getD 0, most)
    | _, _ => none
  | _ => none

/-- What stands before the closing brace, and what follows it. -/
def beforeBrace (isExtended : Bool) : List Char → Option (List Char × List Char)
  | [] => none
  | '\\' :: '\x7d' :: rest =>
    if isExtended then (beforeBrace isExtended ('\x7d' :: rest)).map fun (inner, rest) => ('\\' :: inner, rest)
    else some ([], rest)
  | c :: rest =>
    if isExtended && c == '\x7d' then some ([], rest)
    else (beforeBrace isExtended rest).map fun (inner, rest) => (c :: inner, rest)
termination_by cs => cs.length

/-- The count between braces, after the opening one. Nothing is told, and nothing taken, if what follows is none and may
be text. -/
def bounds (style : Style) : ReadingM (Option Count) := do
  let mayBeText := style.isExtended && !style.isStrict
  match beforeBrace style.isExtended (← get).rest with
  | none => if mayBeText then pure none else throw .unmatchedBrace
  | some (inner, rest) =>
    match countOf? inner with
    | none => if mayBeText then pure none else throw .badBrace
    | some (least, most) =>
      modify fun s => { s with rest }
      if most.any (· < least) then throw .badBrace
      else if 32767 < most.getD least then throw .tooBig
      else pure (some (least, most))

/-- The repetition that stands next, if there is one. -/
def repetition? (style : Style) : ReadingM (Option Count) := do
  match (← get).rest, style.isExtended with
  | '*' :: rest, _ => do
    modify fun s => { s with rest }
    pure (some (0, none))
  | '+' :: rest, true | '\\' :: '+' :: rest, false => do
    modify fun s => { s with rest }
    pure (some (1, none))
  | '?' :: rest, true | '\\' :: '?' :: rest, false => do
    modify fun s => { s with rest }
    pure (some (0, some 1))
  | '\x7b' :: rest, true => do
    let before ← get
    set { before with rest }
    match ← bounds style with
    | some count => pure (some count)
    | none => do
      set before
      pure none
  | '\\' :: '\x7b' :: rest, false => do
    modify fun s => { s with rest }
    bounds style
  | _, _ => pure none

/-- Whether a repetition stands next that may not follow another one where the rules of basic expressions are strict. -/
def isDoubled (rest : List Char) : Bool :=
  match rest with
  | '*' :: _ | '\\' :: '\x7b' :: _ => true
  | _ => false

/-- An expression with the repetitions that follow it. -/
def withRepetitions (style : Style) (limit : Nat) (r : Regex) : ReadingM Regex := do
  match limit, ← repetition? style with
  | limit + 1, some (least, most) =>
    if style.isStrict && !style.isExtended && !style.isRepeatable && isDoubled (← get).rest then throw .badRepetition
    else withRepetitions style limit (.times least most r)
  | _, _ => pure r

/-! ## Expressions -/

/-- What a letter after a backslash stands for, and whether it is a place, which cannot be repeated. -/
def letter? (c : Char) : Option (Regex × Bool) :=
  match c with
  | 'w' => some (.oneOf false wordRanges, false)
  | 'W' => some (.oneOf true wordRanges, false)
  | 's' => some (.oneOf false [(' ', ' '), ('\t', '\r')], false)
  | 'S' => some (.oneOf true [(' ', ' '), ('\t', '\r')], false)
  | 'b' => some (.wordEdge, true)
  | 'B' => some (.noWordEdge, true)
  | '<' => some (.wordStart, true)
  | '>' => some (.wordStop, true)
  | '\'' => some (.textStop, true)
  | c => if c.toNat == 96 then some (.textStart, true) else none

/-- Whether a basic expression ends here, so that a dollar sign is an anchor. -/
def endsBasic (rest : List Char) : Bool :=
  match rest with
  | [] => true
  | '\\' :: ')' :: _ | '\\' :: '|' :: _ => true
  | _ => false

/-- Whether an alternative ends here. -/
def endsBranch (isExtended : Bool) (depth : Nat) (rest : List Char) : Bool :=
  match rest, isExtended with
  | [], _ => true
  | '|' :: _, true | '\\' :: '|' :: _, false => true
  | ')' :: _, true => depth != 0
  | '\\' :: ')' :: _, false => true
  | _, _ => false

/-- Leaves out an operator that has nothing to repeat. -/
def leaveOut (style : Style) (c : Char) : ReadingM Regex := do
  if style.isStrict then throw .badRepetition
  else
    modify fun s => { s with idle := c :: s.idle }
    pure .empty

mutual

/-- Alternatives. -/
def alternatives (style : Style) (limit depth : Nat) : ReadingM Regex := do
  match limit with
  | 0 => throw .unmatchedOpening
  | limit + 1 =>
    let first ← branch style limit depth true .empty
    match (← get).rest, style.isExtended with
    | '|' :: rest, true | '\\' :: '|' :: rest, false => do
      modify fun s => { s with rest }
      pure (.either first (← alternatives style limit depth))
    | _, _ => pure first

/-- An alternative, after what was read of it. -/
def branch (style : Style) (limit depth : Nat) (isFirst : Bool) (before : Regex) : ReadingM Regex := do
  match limit with
  | 0 => throw .unmatchedOpening
  | limit + 1 =>
    if endsBranch style.isExtended depth (← get).rest then pure before
    else
      let (r, isPlace) ← atom style limit depth isFirst
      let r ← if isPlace then pure r else withRepetitions style ((← get).rest.length + 1) r
      branch style limit depth isPlace
          (if before == .empty then r else if r == .empty then before else .sequence before r)

/-- An expression without repetitions, and whether it is a place, which cannot be repeated. -/
def atom (style : Style) (limit depth : Nat) (isFirst : Bool) : ReadingM (Regex × Bool) := do
  match limit with
  | 0 => throw .unmatchedOpening
  | limit + 1 =>
    let isExtended := style.isExtended
    let grouped : ReadingM (Regex × Bool) := do
      let number := (← get).opened + 1
      modify fun s => { s with opened := number }
      let r ← alternatives style limit (depth + 1)
      match (← get).rest, isExtended with
      | ')' :: rest, true | '\\' :: ')' :: rest, false => do
        modify fun s => { s with rest, closed := number :: s.closed }
        pure (.group number r, false)
      | _, _ => throw .unmatchedOpening
    match (← get).rest with
    | [] => pure (.empty, false)
    | c :: rest =>
      modify fun s => { s with rest }
      match c with
      | '.' => pure (.any, false)
      | '[' => do pure (← bracket, false)
      | '*' => if isExtended && isFirst then do pure (← leaveOut style c, true) else pure (.char '*', false)
      | '^' => if isExtended || isFirst then pure (.start, true) else pure (.char '^', false)
      | '$' => if isExtended || endsBasic rest then pure (.stop, true) else pure (.char '$', false)
      | '(' => if isExtended then grouped else pure (.char '(', false)
      | ')' => if isExtended && style.isStrict then throw .unmatchedClosing else pure (.char ')', false)
      | '+' | '?' => if isExtended && isFirst then do pure (← leaveOut style c, true) else pure (.char c, false)
      | '\x7b' =>
        if isExtended && style.isStrict then throw .badRepetition
        else if isExtended && isFirst then
          if ((beforeBrace true rest).bind fun (inner, _) => countOf? inner).isSome then
            do pure (← leaveOut style c, true)
          else pure (.empty, true)
        else pure (.char c, false)
      | '\\' =>
        match rest with
        | [] => throw .trailingBackslash
        | d :: rest => do
          modify fun s => { s with rest }
          match letter? d with
          | some found => pure found
          | none =>
            if d == '(' && !isExtended then grouped
            else if d == ')' && !isExtended then throw .unmatchedClosing
            else if d == '\x7b' && !isExtended then
              if style.isStrict then throw .badRepetition else pure (.char d, false)
            else if '1' ≤ d && d ≤ '9' then
              let number := d.toNat - 48
              if (← get).closed.contains number then pure (.back number, false) else throw .badReference
            else pure (.char d, false)
      | c => pure (.char c, false)

end

/-- What was read from a text: the expression, the number of its groups, and the operators that are idle. -/
structure Parsed where
  regex : Regex
  groups : Nat
  idle : List Char
deriving Repr

/-- The expression that a text is. -/
def ofText? (style : Style) (cs : List Char) : Except Fault Parsed := do
  let (r, s) ← (alternatives style (4 * cs.length + 8) 0).run ⟨cs, 0, [], []⟩
  match s.rest with
  | [] => .ok ⟨r, s.opened, s.idle.reverse⟩
  | _ => .error .unmatchedClosing

end Rebuild.Text.Regex
