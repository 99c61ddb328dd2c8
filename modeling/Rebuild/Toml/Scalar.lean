import Rebuild.Toml.Token
import Rebuild.Toml.Value

/-!
# Scalars

What stands unquoted as a value is a truth value, a number or a moment. Numbers may have an underscore between two
digits; no decimal number but zero begins with a zero. After a sign both rules count from the first underscore on, if
the digits begin with one. A moment is a date, a time of day, or both, and then perhaps an offset.

Two forms are integers as they are written but stand for no number: the mark of another base alone, and groups between
underscores of which only the ends are looked at.
-/

namespace Rebuild.Toml

/-! ## Numbers -/

/-- Digits without the single underscores between them. -/
def ungroup? (isDigit : Char → Bool) (cs : List Char) : Option (List Char) :=
  let groups := cs.splitOnP (· == '_')
  if groups.all fun g => !g.isEmpty && g.all isDigit then some groups.flatten else none

/-- The number that digits to a base stand for. -/
def natOfDigits (base : Nat) (digits : List Char) : Nat :=
  digits.foldl (fun n c => base * n + (hexDigit? c).getD 0) 0

/-- Decimal digits that do not begin with a zero, unless it stands alone. -/
def wholeDigits? (cs : List Char) : Option (List Char) :=
  match ungroup? Char.isDigit cs with
  | some ('0' :: _ :: _) => none
  | digits => digits

/-- Whether a sign makes a number negative, and what follows the sign. -/
def sign (cs : List Char) : Bool × List Char :=
  match cs with
  | '-' :: cs => (true, cs)
  | '+' :: cs => (false, cs)
  | cs => (false, cs)

/-- The digits before the point of a decimal number, whose sign may be followed by an underscore. -/
def signedDigits? (signed : Bool) (cs : List Char) : Option (List Char) :=
  match cs with
  | '_' :: ds => if signed then ungroup? Char.isDigit ds else none
  | cs => wholeDigits? cs

/-- Whether a text has a sign. -/
def isSigned (cs : List Char) : Bool :=
  match cs with
  | '-' :: _ | '+' :: _ => true
  | _ => false

/-- The integer with this text. -/
def integer? (cs : List Char) : Option Int :=
  match cs with
  | '0' :: 'x' :: cs => (ungroup? (fun c => (hexDigit? c).isSome) cs).map fun ds => natOfDigits 16 ds
  | '0' :: 'o' :: cs => (ungroup? (fun c => '0' ≤ c && c ≤ '7') cs).map fun ds => natOfDigits 8 ds
  | '0' :: 'b' :: cs => (ungroup? (fun c => c == '0' || c == '1') cs).map fun ds => natOfDigits 2 ds
  | cs =>
    let (negative, ds) := sign cs
    (signedDigits? (isSigned cs) ds).map fun ds =>
      let n : Int := natOfDigits 10 ds
      if negative then -n else n

/-- The part of a text before a character that has the property, and the part after it if there is one. -/
def cut (p : Char → Bool) (cs : List Char) : List Char × Option (List Char) :=
  match cs.dropWhile (!p ·) with
  | [] => (cs, none)
  | _ :: rest => (cs.takeWhile (!p ·), some rest)

/-- The floating-point number with this text. -/
def float? (cs : List Char) : Option FloatText :=
  let signed := isSigned cs
  let (negative, cs) := sign cs
  if cs == "inf".toList then some (.infinite negative)
  else if cs == "nan".toList then some .nan
  else
    let (mantissa, exponent) := cut (fun c => c == 'e' || c == 'E') cs
    let (whole, fraction) := cut (· == '.') mantissa
    if exponent.isNone && fraction.isNone then none
    else do
      let whole ← signedDigits? signed whole
      let fraction ← match fraction with
        | none => some []
        | some ds => ungroup? Char.isDigit ds
      let exponent ← match exponent with
        | none => some (0 : Int)
        | some cs =>
          let (negative, ds) := sign cs
          (ungroup? Char.isDigit ds).map fun ds =>
            let n : Int := natOfDigits 10 ds
            if negative then -n else n
      some (.finite negative ⟨natOfDigits 10 (whole ++ fraction), exponent - fraction.length⟩)

/-! ## Moments -/

/-- The number that two digits stand for. -/
def twoDigits? (a b : Char) : Option Nat :=
  if a.isDigit && b.isDigit then some (natOfDigits 10 [a, b]) else none

/-- The number of days of a month. -/
def daysOf (year month : Nat) : Nat :=
  if month == 2 then
    if year % 4 == 0 && (year % 100 != 0 || year % 400 == 0) then 29 else 28
  else if month == 4 || month == 6 || month == 9 || month == 11 then 30
  else 31

/-- What follows a date. -/
def afterDate? (cs : List Char) : Option (List Char) :=
  match cs with
  | y1 :: y2 :: y3 :: y4 :: '-' :: m1 :: m2 :: '-' :: d1 :: d2 :: rest => do
    let century ← twoDigits? y1 y2
    let year ← twoDigits? y3 y4
    let month ← twoDigits? m1 m2
    let day ← twoDigits? d1 d2
    if 1 ≤ month && month ≤ 12 && 1 ≤ day && day ≤ daysOf (100 * century + year) month then some rest else none
  | _ => none

/-- What follows the seconds of a time of day, which may be left out and may have a fraction. -/
def afterSeconds? (cs : List Char) : Option (List Char) :=
  match cs with
  | ':' :: s1 :: s2 :: rest => do
    let second ← twoDigits? s1 s2
    if second ≤ 60 then
      match rest with
      | '.' :: fraction =>
        if (fraction.takeWhile Char.isDigit).isEmpty then none else some (fraction.dropWhile Char.isDigit)
      | rest => some rest
    else none
  | ':' :: _ => none
  | rest => some rest

/-- What follows a time of day. -/
def afterTime? (cs : List Char) : Option (List Char) :=
  match cs with
  | h1 :: h2 :: ':' :: m1 :: m2 :: rest => do
    let hour ← twoDigits? h1 h2
    let minute ← twoDigits? m1 m2
    if hour ≤ 23 && minute ≤ 59 then afterSeconds? rest else none
  | _ => none

/-- Whether a text is an offset from universal time, or empty. -/
def isOffset (cs : List Char) : Bool :=
  match cs with
  | [] => true
  | [z] => z == 'Z' || z == 'z'
  | [s, h1, h2, ':', m1, m2] =>
    (s == '+' || s == '-') && ((twoDigits? h1 h2).any (· ≤ 23)) && ((twoDigits? m1 m2).any (· ≤ 59))
  | _ => false

/-- Whether a text is a date, a time of day, or both with a space or a `T` between them and perhaps an offset. -/
def isDateTime (cs : List Char) : Bool :=
  match afterDate? cs with
  | some [] => true
  | some (c :: rest) =>
    (c == 'T' || c == 't' || c == ' ') && ((afterTime? rest).any isOffset)
  | none => (afterTime? cs).any List.isEmpty

/-! ## All scalars -/

/-- Whether a text is the mark of a base other than ten and no more: a number without digits. -/
def isBareBase (text : String) : Bool :=
  text == "0x" || text == "0o" || text == "0b"

/-- Whether a character is a digit to base sixteen. -/
def isHexDigit (c : Char) : Bool :=
  (hexDigit? c).isSome

/-- Whether each group after an underscore begins with a digit to base sixteen, and each but the last ends with one. -/
def isGroups : List (List Char) → Bool
  | [] => true
  | [g] => g.head?.any isHexDigit
  | g :: groups => g.head?.any isHexDigit && g.getLast?.any isHexDigit && isGroups groups

/-- Whether a text begins like a decimal integer up to an underscore, has groups after it, and nothing that only a
floating-point number has. -/
def isGrouped (cs : List Char) : Bool :=
  match (sign cs).2.splitOnP (· == '_') with
  | first :: group :: groups =>
    first.all Char.isDigit && first.head? != some '0' && (isSigned cs || !first.isEmpty)
      && !(cs.any (fun c => c == '.' || c == 'e' || c == 'E')) && isGroups (group :: groups)
  | _ => false

/-- The value with this text. -/
def scalar? (text : String) : Option Value :=
  let cs := text.toList
  if text == "true" then some (.boolean true)
  else if text == "false" then some (.boolean false)
  else if let some n := integer? cs then some (.integer n)
  else if let some f := float? cs then some (.float f)
  else if isDateTime cs then some .dateTime
  else if isBareBase text || isGrouped cs then some .nonNumber
  else none

end Rebuild.Toml
