import Rebuild.Text.Escape
import Rebuild.Text.Format
import Rebuild.Text.ShellQuoted

/-!
# Printing by a format

A format is text with directives, each of which takes an argument, and escapes. It is used again until the arguments are
used up; an argument that is missing counts as empty. What is wrong with arguments is told beside the output, with the
place in the output where it was found. There are two styles: that of the shell, and a full one with more escapes, in
which directives and numbers are read more strictly.
-/

namespace Rebuild.Text

/-- What is wrong with a format or its arguments. -/
inductive PrintfFault where
  /-- An argument should be a number. -/
  | notNumeric (arg : String)
  /-- Something follows the number that an argument begins with. -/
  | notComplete (arg : String)
  /-- An argument is too large a number. -/
  | outOfRange (arg : String)
  /-- Something follows a character that stands for its number, and is passed over. -/
  | afterCharacter (rest : String)
  /-- There is no such directive; nothing more is printed. -/
  | noDirective (directive : String)
  /-- A directive ends with the format; nothing more is printed. -/
  | noConversion
  /-- A width cannot be used; nothing more is printed. -/
  | invalidWidth (arg : String)
  /-- A precision cannot be used; nothing more is printed. -/
  | invalidPrecision (arg : String)
  /-- An escape is not complete; nothing more is printed. -/
  | noDigits
  /-- An escape is no character; nothing more is printed. -/
  | noCharacter (written : String)
deriving DecidableEq, Repr

namespace PrintfFault

/-- Whether nothing is printed after a fault. -/
def isFatal : PrintfFault → Bool
  | .notNumeric _ | .notComplete _ | .outOfRange _ | .afterCharacter _ => false
  | _ => true

/-- Whether a fault is only warned of. -/
def isWarning : PrintfFault → Bool
  | .afterCharacter _ => true
  | _ => false

/-- The fault that an escape brings, if it is one. -/
def ofEscape? : Escape → Option PrintfFault
  | .noDigits => some .noDigits
  | .noCharacter written => some (.noCharacter written)
  | _ => none

end PrintfFault

/-- How formats are read. -/
inductive PrintfStyle where
  | shell
  | full
deriving DecidableEq, Repr

/-- The kind of the real numbers that are printed. -/
def PrintfStyle.floatKind : PrintfStyle → FloatKind
  | .shell => .double
  | .full => .extended

/-- The escape that the characters after a backslash make in a format. -/
def PrintfStyle.formatEscape : PrintfStyle → List Char → Escape
  | .shell => Escape.inFormat
  | .full => Escape.inFullFormat

/-- The escape that the characters after a backslash make in a text. -/
def PrintfStyle.textEscape : PrintfStyle → List Char → Escape
  | .shell => Escape.inText
  | .full => Escape.inFullText

/-- How far printing is. -/
structure Printing where
  style : PrintfStyle
  output : ByteArray
  args : List String
  /-- The faults, the last first, each with the size of the output before it. -/
  faults : List (Nat × PrintfFault)
  /-- Whether nothing more is printed. -/
  isOver : Bool
  /-- Whether an argument was asked for. -/
  isUsed : Bool

namespace Printing

/-- Adds to the output. -/
def put (p : Printing) (bytes : ByteArray) : Printing :=
  { p with output := p.output ++ bytes }

/-- Takes an argument. -/
def take (p : Printing) : Option String × Printing :=
  (p.args.head?, { p with args := p.args.drop 1, isUsed := true })

/-- Notes a fault. -/
def note (p : Printing) (fault : PrintfFault) : Printing :=
  { p with faults := (p.output.size, fault) :: p.faults, isOver := p.isOver || fault.isFatal }

/-- Notes a fault, if there is one. -/
def noteIf (p : Printing) (fault : Option PrintfFault) : Printing :=
  match fault with
  | some fault => p.note fault
  | none => p

/-! ## Escapes -/

/-- The bytes of a character with a number; those that are more than a byte are spelled as an escape. -/
def characterBytes (n : Nat) : ByteArray :=
  if n < 0x80 then ⟨#[UInt8.ofNat n]⟩
  else
    let digits := (Nat.toDigits 16 n).map Char.toUpper
    let (letter, size) := if n < 0x10000 then ('u', 4) else ('U', 8)
    (String.ofList ('\\' :: letter :: List.replicate (size - digits.length) '0' ++ digits)).toUTF8

/-- The bytes of a text in which escapes are replaced. The output ends with an escape that ends it or is faulty, which
is told. -/
def unescape (escape : List Char → Escape) (fuel : Nat) (cs : List Char) : ByteArray × Option Escape :=
  match fuel with
  | 0 => (.empty, none)
  | fuel + 1 =>
    let before (bytes : ByteArray) (cs : List Char) : ByteArray × Option Escape :=
      (unescape escape fuel cs).map (bytes ++ ·) id
    match cs with
    | [] => (.empty, none)
    | '\\' :: cs =>
      match escape cs with
      | .byte n rest => before ⟨#[UInt8.ofNat n]⟩ rest
      | .character n rest => before (characterBytes n) rest
      | .literal => before "\\".toUTF8 cs
      | ending => (.empty, some ending)
    | c :: cs => before (toBytes c.toString) cs

/-! ## Numbers -/

/-- The digits of an integer at the beginning, to the base that it begins with, and what follows. -/
def digitsAt (cs : List Char) : Option (Nat × List Char) :=
  let value (c : Char) : Nat :=
    if c.isDigit then c.toNat - 48 else if c.isUpper then c.toNat - 55 else c.toNat - 87
  let number (base : Nat) (isDigit : Char → Bool) (cs : List Char) : Nat × List Char :=
    ((cs.takeWhile isDigit).foldl (fun n c => base * n + value c) 0, cs.dropWhile isDigit)
  let isHex (c : Char) : Bool := c.isDigit || ('a' ≤ c && c ≤ 'f') || ('A' ≤ c && c ≤ 'F')
  let isOctal (c : Char) : Bool := '0' ≤ c && c ≤ '7'
  match cs with
  | '0' :: x :: c :: rest =>
    if (x == 'x' || x == 'X') && isHex c then some (number 16 isHex (c :: rest)) else some (number 8 isOctal cs)
  | '0' :: _ => some (number 8 isOctal cs)
  | c :: _ => if c.isDigit then some (number 10 Char.isDigit cs) else none
  | [] => none

/-- The number of the character that stands after a quote, if an argument begins with one, and what is wrong with it. -/
def characterOf? (style : PrintfStyle) (arg : String) : Option (Nat × Option PrintfFault) :=
  match byteChars arg with
  | '"' :: c :: rest | '\'' :: c :: rest =>
    some (c.toNat, if rest.isEmpty || style == .shell then none else some (.afterCharacter (ofByteChars rest)))
  | ['"'] | ['\''] => if style == .shell then some (0, none) else none
  | _ => none

/-- What is wrong with a number, after which something else may follow. -/
def faultOf? (style : PrintfStyle) (arg : String) (isInRange isComplete : Bool) : Option PrintfFault :=
  let partly : Option PrintfFault := if isComplete then none else some (.notComplete arg)
  let wide : Option PrintfFault := if isInRange then none else some (.outOfRange arg)
  if style == .shell then partly.or wide else wide.or partly

/-- The integer that an argument is, as far as it is one, and what is wrong with it: after a quote the number of a
character, else a number to the base that it begins with. -/
def integerOf (style : PrintfStyle) (limits : Int × Int) (arg : String) : Int × Option PrintfFault :=
  match characterOf? style arg with
  | some (n, fault) => (n, fault)
  | none =>
    let cs := (byteChars arg).dropWhile fun c => c == ' ' || (9 ≤ c.toNat && c.toNat ≤ 13)
    let (negative, rest) := match cs with
      | '-' :: cs => (true, cs)
      | '+' :: cs => (false, cs)
      | cs => (false, cs)
    match digitsAt rest with
    | none => (0, if arg.isEmpty then none else some (.notNumeric arg))
    | some (n, rest) =>
      let exact : Int := if negative then -n else n
      let value := max limits.1 (min limits.2 exact)
      (value, faultOf? style arg (value == exact) rest.isEmpty)

/-- The real number that an argument is, as far as it is one, and what is wrong with it. -/
def realOf (style : PrintfStyle) (arg : String) : RealValue × Option PrintfFault :=
  match characterOf? style arg with
  | some (n, fault) => (.finite false n 1, fault)
  | none =>
    let cs := byteChars arg
    match RealValue.read? style.floatKind cs with
    | none => (.finite false 0 1, if arg.isEmpty then none else some (.notNumeric arg))
    | some (x, rest) =>
      let isGiven := cs.any fun c => c == 'i' || c == 'I'
      let isWide := x.isVague || match x.value with
        | .infinite _ => !isGiven
        | _ => false
      (x.value, faultOf? style arg (!isWide) rest.isEmpty)

/-- A power of two. -/
def twoTo (n : Nat) : Int :=
  Nat.pow 2 n

/-! ## Directives -/

/-- Takes an argument as an integer. -/
def takeInteger (p : Printing) (limits : Int × Int) : Int × Printing :=
  let (arg, p) := p.take
  let (n, fault) := integerOf p.style limits (arg.getD "")
  (n, p.noteIf fault)

/-- Prints an argument in which escapes are replaced, by a directive. -/
def convertEscaped (p : Printing) (d : Directive) : Printing :=
  let (arg, p) := p.take
  let arg := arg.getD ""
  let (bytes, ending) := unescape p.style.textEscape (arg.length + 1) arg.toList
  let p := p.put (bytesOfChars (d.text (String.ofList (charsOfBytes bytes))).toList)
  { p.noteIf (ending.bind PrintfFault.ofEscape?) with isOver := p.isOver || ending.isSome }

/-- Prints an argument by a directive whose text is given. -/
def convert (p : Printing) (text : String) (d : Directive) : Printing :=
  match d.conversion with
  | 's' =>
    let (arg, p) := p.take
    p.put (bytesOfChars ((d.text (String.ofList (byteChars (arg.getD "")))).toList))
  | 'b' => p.convertEscaped d
  | 'c' =>
    let (arg, p) := p.take
    let first := (byteChars (arg.getD "")).headD '\x00'
    p.put (bytesOfChars ({ d with precision := none }.text first.toString).toList)
  | 'd' | 'i' =>
    let (n, p) := p.takeInteger (-(twoTo 63), twoTo 63 - 1)
    p.put (d.integer n).toUTF8
  | 'o' | 'u' | 'x' | 'X' =>
    let (n, p) := p.takeInteger (-(twoTo 64 - 1), twoTo 64 - 1)
    p.put (d.natural (n % twoTo 64).toNat).toUTF8
  | 'a' | 'A' | 'e' | 'E' | 'f' | 'F' | 'g' | 'G' =>
    let (arg, p) := p.take
    let (x, fault) := realOf p.style (arg.getD "")
    (p.noteIf fault).put (d.real p.style.floatKind x).toUTF8
  | _ => p.note (.noDirective text)

/-- The number at the beginning, or taken from the arguments for a star, and what follows. A number from the arguments
has to be less than a limit. -/
def measure (p : Printing) (least : Int) (fault : String → PrintfFault) (cs : List Char) :
    Option Int × List Char × Printing :=
  match cs with
  | '*' :: rest =>
    let arg := p.args.headD ""
    let (n, p) := p.takeInteger (-(twoTo 63), twoTo 63 - 1)
    let isFine := least ≤ n && n < twoTo 31
    if p.style == .shell then (some (Int.bmod n (2 * (twoTo 31).toNat)), rest, p)
    else (some (if isFine then n else 0), rest, if isFine then p else p.note (fault arg))
  | cs =>
    let digits := cs.takeWhile Char.isDigit
    (if digits.isEmpty then none else some (decimalValue digits), cs.dropWhile Char.isDigit, p)

/-- Whether a conversion goes with flags and a precision in the full style. -/
def isFitting (flags : List Char) (hasPrecision : Bool) (c : Char) : Bool :=
  let clashes (flag : Char) (letters : String) : Bool := flags.contains flag && letters.toList.contains c
  "aAcdeEfFgGiosuxX".toList.contains c && !clashes '\'' "aAceEosxX" && !clashes 'I' "aAceEosxX" &&
    !clashes '#' "cdisu" && !clashes '0' "cs" && !(hasPrecision && c == 'c')

/-- Prints by a directive that may have flags, a width and a precision, after its percent sign; what follows it is
told. -/
def measuredDirective (p : Printing) (cs : List Char) : Printing × List Char :=
  let isFull := p.style == .full
  let isFlag (c : Char) : Bool := "#-+ 0".toList.contains c || (isFull && (c == '\'' || c == 'I'))
  let flags := cs.takeWhile isFlag
  let (width, rest, p) := p.measure (-(twoTo 31)) .invalidWidth (cs.dropWhile isFlag)
  let (precision, rest, p) := match rest with
    | '.' :: rest =>
      let (n, rest, p) := p.measure (-(twoTo 63)) .invalidPrecision rest
      (some (n.getD 0), rest, p)
    | rest => (none, rest, p)
  let rest := if isFull then rest.dropWhile fun c => "lLhjtz".toList.contains c else rest
  if p.isOver then (p, [])
  else
    match rest with
    | [] => (p.note (if isFull then .noDirective (String.ofList ('%' :: cs)) else .noConversion), [])
    | c :: rest =>
      let text := "%" ++ String.ofList (cs.take (cs.length - rest.length))
      if isFull && !isFitting flags precision.isSome c then (p.note (.noDirective text), [])
      else
        let flags := if width.any (· < 0) then '-' :: flags else flags
        (p.convert text ⟨flags, (width.getD 0).natAbs, (precision.filter (0 ≤ ·)).map Int.toNat, c⟩, rest)

/-- Prints by the directive at the beginning, after its percent sign; what follows it is told. In the full style an
argument in which escapes are replaced and one that is quoted for a shell have directives that are only a letter. -/
def directive (p : Printing) (cs : List Char) : Printing × List Char :=
  match p.style, cs with
  | .full, 'b' :: rest => (if p.args.isEmpty then p else p.convertEscaped ⟨[], 0, none, 'b'⟩, rest)
  | .full, 'q' :: rest =>
    match p.take with
    | (some arg, p) => (p.put (toBytes (shellWord arg)), rest)
    | (none, _) => (p, rest)
  | _, _ => p.measuredDirective cs

/-- Goes through a format once. -/
def once (fuel : Nat) (cs : List Char) (p : Printing) : Printing :=
  match fuel with
  | 0 => p
  | fuel + 1 =>
    if p.isOver then p
    else
      match cs with
      | [] => p
      | '\\' :: cs =>
        match p.style.formatEscape cs with
        | .byte n rest => once fuel rest (p.put ⟨#[UInt8.ofNat n]⟩)
        | .character n rest => once fuel rest (p.put (characterBytes n))
        | .literal => once fuel cs (p.put "\\".toUTF8)
        | ending => { p.noteIf (PrintfFault.ofEscape? ending) with isOver := true }
      | '%' :: '%' :: cs => once fuel cs (p.put "%".toUTF8)
      | '%' :: cs =>
        let (p, rest) := p.directive cs
        once fuel rest p
      | c :: cs => once fuel cs (p.put (toBytes c.toString))

/-- Goes through a format until the arguments are used up. -/
def rounds (fuel : Nat) (cs : List Char) (p : Printing) : Printing :=
  match fuel with
  | 0 => p
  | fuel + 1 =>
    let after := once (cs.length + 1) cs { p with isUsed := false }
    if after.isUsed && !after.isOver && !after.args.isEmpty then rounds fuel cs after else after

end Printing

/-- What arguments print by a format. -/
def printf (style : PrintfStyle) (format : String) (args : List String) : Printing :=
  Printing.rounds (args.length + 1) format.toList ⟨style, .empty, args, [], false, false⟩

end Rebuild.Text
