import Rebuild.Shell.Script

/-!
# The text of a script

Reading goes through the characters of a script and counts its lines. A token that was read too early is put back. The
text of a here-document follows the line of its redirection, so it is not known when the redirection is read: a command
is read once to find the texts, and if there are any, once more with them at hand.
-/

namespace Rebuild.Shell

/-- A token of a script. -/
inductive Token where
  | newline
  | endOfFile
  | operator (text : String)
  /-- The beginning of a redirection of a stream. -/
  | redirection (stream : Nat) (operator : String)
  /-- A word, and whether a part of it is quoted. -/
  | word (pieces : Word) (isQuoted : Bool)
  /-- A word with a meaning of its own where a command may begin. -/
  | keyword (text : String)

/-- A token as complaints name it. -/
def Token.name : Token → String
  | .newline => "newline"
  | .endOfFile => "end of file"
  | .operator text | .keyword text => s!"\"{text}\""
  | .redirection _ _ => "redirection"
  | .word _ _ => "word"

/-- A here-document whose text is still to come. -/
structure Awaited where
  number : Nat
  /-- The line that ends the text. -/
  delimiter : String
  /-- Whether nothing in the text is substituted. -/
  isLiteral : Bool
  /-- Whether tabs at the beginning of lines do not count. -/
  dropsTabs : Bool
deriving DecidableEq, Repr

/-- How the here-document ends that is read. -/
structure Ending where
  delimiter : List Char
  dropsTabs : Bool
deriving DecidableEq, Repr

/-- Where reading stands in a script. -/
structure Source where
  rest : List Char
  line : Nat
  pushed : Option Token
  awaited : List Awaited
  /-- How many here-documents there were. -/
  count : Nat
  /-- The texts of here-documents by their numbers, as they are read. -/
  found : List (Nat × Word)
  /-- The texts that are at hand. -/
  known : List (Nat × Word)
  /-- How the here-document ends in which reading is, if it is in one. -/
  ending : Option Ending
  /-- Whether a line of it begins here. -/
  isLineStart : Bool
  /-- Whether the word that is read ends a here-document, so that nothing in it is substituted. -/
  isDelimiter : Bool
  /-- The words that stand for other texts where a command may begin. -/
  aliases : List (String × String)
  /-- Which of them have been replaced, each with the length of what follows its text. -/
  replaced : List (Nat × String)

/-- Why a script cannot be read, and the line. -/
structure SyntaxFault where
  line : Nat
  message : String
deriving DecidableEq, Repr

/-- What is read from a script. -/
abbrev Reading := StateT Source (Except SyntaxFault)

namespace Source

/-- The beginning of a script. -/
def ofText (text : String) (aliases : List (String × String)) : Source where
  rest := text.toList
  line := 1
  pushed := none
  awaited := []
  count := 0
  found := []
  known := []
  ending := none
  isLineStart := false
  isDelimiter := false
  aliases := aliases
  replaced := []

/-- Another text that is read on its own, with the same here-documents. -/
def nested (s : Source) (text : List Char) (line : Nat) : Source :=
  { s with rest := text, line, pushed := none, awaited := [], ending := none, isDelimiter := false, replaced := [] }

/-- Goes on after a text that was read on its own. -/
def resume (s inner : Source) : Source :=
  { s with count := inner.count, found := inner.found }

end Source

namespace Reading

/-- Fails at the line that is read. -/
def fail (message : String) : Reading α := do
  throw ⟨(← get).line, message⟩

/-- Fails at a token that may not stand here. -/
def unexpected (token : Token) : Reading α :=
  fail s!"{token.name} unexpected"

/-- Fails at a token in the place of another. -/
def expecting (token : Token) (expected : String) : Reading α :=
  fail (((s!"{token.name} unexpected (expecting {expected})").take 63).toString)

/-- Takes a step again and again until it tells a result, at most once for each character that is left and twice
more. -/
def repeatUntil (start : σ) (step : σ → Reading (σ ⊕ α)) : Reading α := do
  let rec go (fuel : Nat) (state : σ) : Reading α := do
    match fuel with
    | 0 => fail "script too long"
    | fuel + 1 =>
      match ← step state with
      | .inl state => go fuel state
      | .inr a => pure a
  go ((← get).rest.length + 2) start

/-! ## Characters -/

/-- The next character of the script, without taking it. -/
def peek : Reading (Option Char) := do
  pure (← get).rest.head?

/-- Takes the next character of the script. -/
def take : Reading (Option Char) := do
  let s ← get
  match s.rest with
  | [] => pure none
  | c :: rest =>
    set { s with rest, line := if c == '\n' then s.line + 1 else s.line }
    pure (some c)

/-- Passes over line ends with a backslash before them. -/
def skipJoins : Reading Unit :=
  modify fun s =>
    let rec go : List Char → Nat → List Char × Nat
      | '\\' :: '\n' :: cs, line => go cs (line + 1)
      | cs, line => (cs, line)
    let (rest, line) := go s.rest s.line
    { s with rest, line }

/-- The next character after such line ends, without taking it. -/
def peekJoined : Reading (Option Char) := do
  skipJoins
  peek

/-- Takes the next character after such line ends. -/
def takeJoined : Reading (Option Char) := do
  skipJoins
  take

/-- Takes characters as long as they have a property. -/
def takeRun (p : Char → Bool) : Reading (List Char) :=
  repeatUntil [] fun cs => do
    match ← peekJoined with
    | some c => if p c then do let _ ← take; pure (.inl (c :: cs)) else pure (.inr cs.reverse)
    | none => pure (.inr cs.reverse)

/-- Puts the text for which a word stands in its place, unless that is in such a text already, and tells whether. -/
def replaceAlias (word : String) : Reading Bool := do
  let s ← get
  let replaced := s.replaced.filter fun (length, _) => length ≤ s.rest.length
  match s.aliases.lookup word with
  | some text =>
    if replaced.any (·.2 == word) then pure false
    else
      set { s with rest := text.toList ++ s.rest, replaced := (s.rest.length, word) :: replaced }
      pure true
  | none => pure false

/-- Puts a token back. -/
def putBack (token : Token) : Reading Unit :=
  modify fun s => { s with pushed := some token }

/-- Reads another text on its own. -/
def within (text : List Char) (line : Nat) (read : Reading α) : Reading α := fun s => do
  let (a, inner) ← read.run (s.nested text line)
  .ok (a, s.resume inner)

/-- Reads a part whose here-documents end with it. -/
def apart (read : Reading α) : Reading α := do
  let before ← get
  set { before with awaited := [], ending := none }
  let a ← read
  modify fun s => { s with awaited := before.awaited, ending := before.ending }
  pure a

/-- Reads a part, and if it has here-documents, reads it once more with their texts at hand. -/
def withDocuments (read : Reading α) : Reading α := fun s => do
  let (a, after) ← read.run { s with count := 0, found := [], known := [] }
  let (a, after) ← if after.found.isEmpty then .ok (a, after)
    else read.run { s with count := 0, found := [], known := after.found }
  .ok (a, { after with count := s.count, found := s.found, known := s.known })

/-! ## Here-documents -/

/-- Whether the here-document that is read ends here; its last line is taken then. Tabs at the beginning of a line may
be passed over. -/
def endsDocument : Reading Bool := do
  let s ← get
  match s.ending, s.isLineStart with
  | some ending, true =>
    let rest := if ending.dropsTabs then s.rest.dropWhile (· == '\t') else s.rest
    let after := rest.drop ending.delimiter.length
    if ending.delimiter.isPrefixOf rest && (after.isEmpty || after.head? == some '\n') then
      set { s with rest := after.drop 1, line := if after.isEmpty then s.line else s.line + 1, isLineStart := false }
      pure true
    else
      set { s with rest, isLineStart := false }
      pure false
  | _, _ => pure false

/-- Notes that a line of a here-document begins after a line end. -/
def noteLine (c : Char) : Reading Unit :=
  if c == '\n' then modify fun s => { s with isLineStart := true } else pure ()

/-- Takes the next character of a script or of the here-document that is read. -/
def takeLiterally : Reading (Option Char) := do
  if ← endsDocument then pure none
  else
    let c? ← take
    c?.forM noteLine
    pure c?

/-- The next character of a script or of the here-document that is read, after line ends with a backslash before them,
without taking it. -/
def peekInDocument : Reading (Option Char) := do
  if ← endsDocument then pure none else peekJoined

/-- The rest of a here-document in which nothing has a meaning. -/
def literalDocument : Reading (List Char) :=
  repeatUntil [] fun cs => do
    match ← takeLiterally with
    | none => pure (.inr cs.reverse)
    | some c => pure (.inl (c :: cs))

end Reading

end Rebuild.Shell
