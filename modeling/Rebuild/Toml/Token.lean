/-!
# Tokens of a TOML document

A document is a sequence of tokens: line ends, blanks, comments, punctuation, quoted texts and atoms. An atom is what
stands unquoted: a bare key, or a piece of a number, a date or a truth value. `tokens` fails where no token can be read:
at an unclosed quotation, an unknown escape, or a character that must not stand there.

Readers of a part return what follows it as a `Shorter` list, so that they can be repeated.
-/

namespace Rebuild.Toml

/-- A list shorter than another, to go on with. -/
abbrev Shorter {α : Type} (l : List α) := { r : List α // r.length < l.length }

namespace Shorter

variable {α : Type} {l : List α}

/-- The tail of a list. -/
def tail (a : α) (l : List α) : Shorter (a :: l) := ⟨l, by simp⟩

/-- What is shorter than the tail is shorter than the list. -/
def cons (a : α) (r : Shorter l) : Shorter (a :: l) := ⟨r.1, by have := r.2; simp; omega⟩

/-- What is shorter than something shorter is shorter. -/
def trans (r : Shorter l) (s : Shorter r.1) : Shorter l := ⟨s.1, Nat.lt_trans s.2 r.2⟩

/-- A shorter list without a part at its beginning. -/
def dropWhile (r : Shorter l) (p : α → Bool) : Shorter l :=
  ⟨r.1.dropWhile p, Nat.lt_of_le_of_lt (List.dropWhile_sublist p).length_le r.2⟩

end Shorter

/-- A token of a document. -/
inductive Token where
  | newline
  /-- Spaces and tabs. -/
  | blanks (text : String)
  | comment
  | equals
  | comma
  | dot
  | openBracket
  | closeBracket
  | openBrace
  | closeBrace
  /-- A quoted text, which may be one of several lines. -/
  | quoted (severalLines : Bool) (text : String)
  | atom (text : String)
deriving DecidableEq, Repr

/-! ## Characters -/

/-- Whether a character may stand in a comment or a quotation: a tab, or anything but a control. -/
def isTextChar (c : Char) : Bool :=
  c == '\t' || (0x20 ≤ c.toNat && c.toNat != 0x7F)

/-- A space or a tab. -/
def isBlankChar (c : Char) : Bool :=
  c == ' ' || c == '\t'

/-- Whether a character may stand in an atom, after its first one at least. -/
def isAtomChar (c : Char) : Bool :=
  !(" \t\r\n#=,.[]\x7b\x7d".toList.contains c)

/-! ## Quotations -/

/-- The value of a hexadecimal digit. -/
def hexDigit? (c : Char) : Option Nat :=
  if '0' ≤ c && c ≤ '9' then some (c.toNat - '0'.toNat)
  else if 'a' ≤ c && c ≤ 'f' then some (c.toNat - 'a'.toNat + 10)
  else if 'A' ≤ c && c ≤ 'F' then some (c.toNat - 'A'.toNat + 10)
  else none

/-- The character whose code point has these hexadecimal digits. -/
def charOfHex? (digits : List Char) : Option Char :=
  match digits.foldlM (fun n c => (hexDigit? c).map (16 * n + ·)) 0 with
  | none => none
  | some n => if n.isValidChar then some (Char.ofNat n) else none

/-- The character that an escape stands for, after its backslash. -/
def escape? : (cs : List Char) → Option (Char × Shorter cs)
  | 'b' :: cs => some ('\x08', .tail _ cs)
  | 't' :: cs => some ('\t', .tail _ cs)
  | 'n' :: cs => some ('\n', .tail _ cs)
  | 'f' :: cs => some ('\x0c', .tail _ cs)
  | 'r' :: cs => some ('\r', .tail _ cs)
  | 'e' :: cs => some ('\x1b', .tail _ cs)
  | '"' :: cs => some ('"', .tail _ cs)
  | '\\' :: cs => some ('\\', .tail _ cs)
  | 'x' :: c1 :: c2 :: cs => (charOfHex? [c1, c2]).map (·, ((Shorter.tail c2 cs).cons c1).cons 'x')
  | 'u' :: c1 :: c2 :: c3 :: c4 :: cs =>
    (charOfHex? [c1, c2, c3, c4]).map (·, ((((Shorter.tail c4 cs).cons c3).cons c2).cons c1).cons 'u')
  | 'U' :: c1 :: c2 :: c3 :: c4 :: c5 :: c6 :: c7 :: c8 :: cs =>
    (charOfHex? [c1, c2, c3, c4, c5, c6, c7, c8]).map
      (·, ((((((((Shorter.tail c8 cs).cons c7).cons c6).cons c5).cons c4).cons c3).cons c2).cons c1).cons 'U')
  | _ => none

/-- A quotation of one line after its opening quote, up to the closing one. -/
def shortText? (quote : Char) (escapes : Bool) : (cs : List Char) → Option (List Char × Shorter cs)
  | [] => none
  | c :: cs =>
    if c == quote then some ([], .tail c cs)
    else if c == '\\' && escapes then
      match escape? cs with
      | none => none
      | some (e, rest) =>
        match shortText? quote escapes rest.1 with
        | none => none
        | some (text, r) => some (e :: text, (rest.trans r).cons c)
    else if isTextChar c then
      match shortText? quote escapes cs with
      | none => none
      | some (text, r) => some (c :: text, r.cons c)
    else none
termination_by cs => cs.length
decreasing_by
  · have := rest.2; simp; omega
  · simp

/-- What follows blanks and line ends. -/
def skipBlankLines : (cs : List Char) → { r : List Char // r.length ≤ cs.length }
  | '\r' :: '\n' :: cs => let r := skipBlankLines cs; ⟨r.1, by have := r.2; simp; omega⟩
  | c :: cs =>
    if isBlankChar c || c == '\n' then let r := skipBlankLines cs; ⟨r.1, by have := r.2; simp; omega⟩
    else ⟨c :: cs, by simp⟩
  | [] => ⟨[], by simp⟩

/-- What follows a backslash that ends its line: the blanks and line ends after it do not count. -/
def lineContinuation? (cs : List Char) : Option { r : List Char // r.length ≤ cs.length } :=
  match cs.dropWhile isBlankChar with
  | '\n' :: _ | '\r' :: '\n' :: _ => some (skipBlankLines cs)
  | _ => none

/-- A quotation of several lines after its opening quotes. It ends at three quotes, and up to two more right before
these belong to it. -/
def longText? (quote : Char) (escapes : Bool) : (cs : List Char) → Option (List Char × Shorter cs)
  | [] => none
  | c :: cs =>
    if c == quote then
      let more := cs.takeWhile (· == quote)
      let rest := (Shorter.tail c cs).dropWhile (· == quote)
      if more.length < 2 then
        match longText? quote escapes rest.1 with
        | none => none
        | some (text, r) => some (c :: more ++ text, rest.trans r)
      else if more.length ≤ 4 then some (more.drop 2, rest)
      else none
    else if c == '\\' && escapes then
      match lineContinuation? cs with
      | some rest =>
        match longText? quote escapes rest.1 with
        | none => none
        | some (text, r) => some (text, ⟨r.1, by have := r.2; have := rest.2; simp; omega⟩)
      | none =>
        match escape? cs with
        | none => none
        | some (e, rest) =>
          match longText? quote escapes rest.1 with
          | none => none
          | some (text, r) => some (e :: text, (rest.trans r).cons c)
    else if isTextChar c || c == '\n' || (c == '\r' && cs.head? == some '\n') then
      match longText? quote escapes cs with
      | none => none
      | some (text, r) => some (c :: text, r.cons c)
    else none
termination_by cs => cs.length
decreasing_by
  · exact rest.2
  · have := rest.2; simp; omega
  · have := rest.2; simp; omega
  · simp

/-- What follows the line end that may stand right after the opening quotes of a quotation of several lines. -/
def skipFirstNewline : (cs : List Char) → { r : List Char // r.length ≤ cs.length }
  | '\n' :: cs => ⟨cs, by simp⟩
  | '\r' :: '\n' :: cs => ⟨cs, by simp; omega⟩
  | cs => ⟨cs, by simp⟩

/-- A quotation after its first quote. -/
def quotation? (quote : Char) (escapes : Bool) (cs : List Char) :
    Option (Token × { r : List Char // r.length ≤ cs.length }) :=
  match cs with
  | c1 :: c2 :: rest =>
    if c1 == quote && c2 == quote then
      let body := skipFirstNewline rest
      (longText? quote escapes body.1).map fun (text, r) =>
        (.quoted true (String.ofList text), ⟨r.1, by have := r.2; have := body.2; simp; omega⟩)
    else
      (shortText? quote escapes (c1 :: c2 :: rest)).map fun (text, r) =>
        (.quoted false (String.ofList text), ⟨r.1, Nat.le_of_lt r.2⟩)
  | cs => (shortText? quote escapes cs).map fun (text, r) =>
      (.quoted false (String.ofList text), ⟨r.1, Nat.le_of_lt r.2⟩)

/-! ## Tokens -/

/-- The token that begins with a character, and what follows it. -/
def token? (c : Char) (cs : List Char) : Option (Token × { r : List Char // r.length ≤ cs.length }) :=
  let alone (t : Token) : Option (Token × { r : List Char // r.length ≤ cs.length }) := some (t, ⟨cs, Nat.le_refl _⟩)
  let run (p : Char → Bool) : { r : List Char // r.length ≤ cs.length } :=
    ⟨cs.dropWhile p, (List.dropWhile_sublist p).length_le⟩
  match c with
  | '\n' => alone .newline
  | '\r' =>
    match cs with
    | '\n' :: rest => some (.newline, ⟨rest, by simp⟩)
    | _ => none
  | '#' => some (.comment, run isTextChar)
  | '=' => alone .equals
  | ',' => alone .comma
  | '.' => alone .dot
  | '[' => alone .openBracket
  | ']' => alone .closeBracket
  | '\x7b' => alone .openBrace
  | '\x7d' => alone .closeBrace
  | '"' => quotation? '"' true cs
  | '\'' => quotation? '\'' false cs
  | c =>
    if isBlankChar c then some (.blanks (String.ofList (c :: cs.takeWhile isBlankChar)), run isBlankChar)
    else some (.atom (String.ofList (c :: cs.takeWhile isAtomChar)), run isAtomChar)

/-- The tokens of some characters. -/
def tokensOfChars : List Char → Option (List Token)
  | [] => some []
  | c :: cs =>
    match token? c cs with
    | none => none
    | some (t, rest) => (tokensOfChars rest.1).map (t :: ·)
termination_by cs => cs.length
decreasing_by have := rest.2; simp; omega

/-- The tokens of a document, which may begin with a byte order mark. -/
def tokens (text : String) : Option (List Token) :=
  match text.toList with
  | '\uFEFF' :: cs => tokensOfChars cs
  | cs => tokensOfChars cs

end Rebuild.Toml
