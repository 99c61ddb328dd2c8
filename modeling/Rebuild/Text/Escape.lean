/-!
# Escapes

A backslash and what follows it stand for a byte or a character, or end the output. Which escapes there are depends on
where they stand: `Escape.inFormat` and `Escape.inText` read those of the shell's formats and texts,
`Escape.inFullFormat` and `Escape.inFullText` those of a format and a text with the full set of escapes, `Escape.inEcho`
those of a text that is only printed.
-/

namespace Rebuild.Text

/-- What a backslash and the characters after it are. -/
inductive Escape where
  /-- A byte by its number, and what follows. -/
  | byte (n : Nat) (rest : List Char)
  /-- A character by its number, and what follows. -/
  | character (n : Nat) (rest : List Char)
  /-- The end of the output. -/
  | stop
  /-- No escape: the backslash stands for itself. -/
  | literal
  /-- An escape without the digits that it should have. -/
  | noDigits
  /-- A number of no character, as it was written. -/
  | noCharacter (written : String)
deriving DecidableEq, Repr

namespace Escape

/-! ## Digits -/

/-- The value of the octal digits at the beginning, at most `limit` of them, and what follows. -/
def octal (limit value : Nat) : List Char → Nat × List Char
  | [] => (value, [])
  | c :: cs =>
    match limit with
    | 0 => (value, c :: cs)
    | limit + 1 => if '0' ≤ c && c ≤ '7' then octal limit (value * 8 + (c.toNat - 48)) cs else (value, c :: cs)

/-- The value of a hexadecimal digit. -/
def hexDigit? (c : Char) : Option Nat :=
  if c.isDigit then some (c.toNat - 48)
  else if 'a' ≤ c.toLower && c.toLower ≤ 'f' then some (c.toLower.toNat - 87)
  else none

/-- The values of the hexadecimal digits at the beginning, at most `limit` of them, and what follows. -/
def hex (limit : Nat) (cs : List Char) : List Nat × List Char :=
  let digits := ((cs.take limit).map hexDigit?).takeWhile Option.isSome
  (digits.filterMap id, cs.drop digits.length)

/-- The number that hexadecimal digits spell. -/
def hexValue (digits : List Nat) : Nat :=
  digits.foldl (fun n digit => 16 * n + digit) 0

/-! ## Letters -/

/-- The number of the byte that a letter stands for after a backslash. -/
def letter? (c : Char) : Option Nat :=
  match c with
  | 'n' => some 10
  | 't' => some 9
  | 'r' => some 13
  | 'a' => some 7
  | 'b' => some 8
  | 'e' => some 27
  | 'f' => some 12
  | 'v' => some 11
  | '\\' => some 92
  | _ => none

/-- Whether a character is an octal digit. -/
def isOctal (c : Char) : Bool :=
  '0' ≤ c && c ≤ '7'

/-- The byte of an octal number of at most three digits at the beginning, if there is one. -/
def octalByte (cs : List Char) : Escape :=
  if cs.head?.any isOctal then
    let (n, rest) := octal 3 0 cs
    .byte n rest
  else .literal

/-- A letter or an octal number. -/
def simple (cs : List Char) : Escape :=
  match cs with
  | [] => .literal
  | c :: rest =>
    match letter? c with
    | some n => .byte n rest
    | none => octalByte cs

/-! ## The shell -/

/-- The escape that the characters after a backslash make in a format of the shell. -/
def inFormat (cs : List Char) : Escape :=
  simple cs

/-- The escape that the characters after a backslash make in a text that the shell prints: an octal number has a zero
before it, and `\c` ends the output. -/
def inText (cs : List Char) : Escape :=
  match cs with
  | 'c' :: _ => .stop
  | '0' :: rest =>
    let (n, rest) := octal 3 0 rest
    .byte n rest
  | cs => simple cs

/-! ## Other programs -/

/-- A character by a number of so many hexadecimal digits, after a letter. -/
def numbered (letter : Char) (size : Nat) (cs : List Char) : Escape :=
  let (digits, rest) := hex size cs
  let n := hexValue digits
  if digits.length < size then .noDigits
  else if 0xD800 ≤ n && n ≤ 0xDFFF then .noCharacter (String.ofList ('\\' :: letter :: cs.take size))
  else .character n rest

/-- The escape that the characters after a backslash make in a format with the full set of escapes. -/
def inFullFormat (cs : List Char) : Escape :=
  match cs with
  | 'c' :: _ => .stop
  | '"' :: rest => .byte 34 rest
  | 'x' :: rest =>
    match hex 2 rest with
    | ([], _) => .noDigits
    | (digits, rest) => .byte (hexValue digits) rest
  | 'u' :: rest => numbered 'u' 4 rest
  | 'U' :: rest => numbered 'U' 8 rest
  | cs => simple cs

/-- The escape that the characters after a backslash make in a text with the full set of escapes. -/
def inFullText (cs : List Char) : Escape :=
  match cs with
  | '0' :: rest =>
    let (n, rest) := octal 3 0 rest
    .byte n rest
  | cs => inFullFormat cs

/-- The escape that the characters after a backslash make in a text that is only printed. -/
def inEcho (cs : List Char) : Escape :=
  match cs with
  | 'x' :: rest =>
    match hex 2 rest with
    | ([], _) => .literal
    | (digits, rest) => .byte (hexValue digits) rest
  | cs => inText cs

end Escape

end Rebuild.Text
