import Rebuild.Decimal

/-!
# Formatted numbers and texts

A directive says how a number or a text is written: in how many places at least, with how many digits or characters, on
which side it is filled up. `Directive.integer`, `Directive.natural`, `Directive.real` and `Directive.text` write by it.
-/

namespace Rebuild.Text

/-- How something is written. -/
structure Directive where
  /-- The flags: `-` fills up on the right, `0` with zeros, `+` and a blank sign what is positive, `#` shows the
  base. -/
  flags : List Char
  width : Nat
  precision : Option Nat
  conversion : Char
deriving DecidableEq, Repr

/-- A real number, exactly. -/
inductive RealValue where
  | finite (negative : Bool) (numerator denominator : Nat)
  | infinite (negative : Bool)
  | nan
deriving DecidableEq, Repr

/-- The value of a finite number as a quotient. -/
def RealValue.quotient? : RealValue → Option (Int × Nat)
  | .finite negative numerator denominator => some (if negative then -(numerator : Int) else numerator, denominator)
  | _ => none

/-- A kind of floating-point numbers: how many binary digits they have, the power of two that they do not reach, and
that of their least unit. -/
structure FloatKind where
  digits : Nat
  limit : Int
  least : Int
deriving DecidableEq, Repr

/-- Numbers of 64 bits. -/
def FloatKind.double : FloatKind :=
  ⟨53, 1024, -1074⟩

/-- Numbers of 80 bits. -/
def FloatKind.extended : FloatKind :=
  ⟨64, 16384, -16445⟩

namespace Directive

/-- Whether a flag is given. -/
def has (d : Directive) (flag : Char) : Bool :=
  d.flags.contains flag

/-- A text with its sign and mark before it, filled up to the width; with zeros only if they may stand there. -/
def fill (d : Directive) (mark : String) (zeros : Bool) (body : String) : String :=
  let missing := d.width - (mark.length + body.length)
  if d.has '-' then mark ++ body ++ String.ofList (List.replicate missing ' ')
  else if d.has '0' && zeros then mark ++ String.ofList (List.replicate missing '0') ++ body
  else String.ofList (List.replicate missing ' ') ++ mark ++ body

/-- The sign of a number. -/
def sign (d : Directive) (negative : Bool) : String :=
  if negative then "-" else if d.has '+' then "+" else if d.has ' ' then " " else ""

/-- Digits with zeros before them, as many as the precision asks for. -/
def padded (d : Directive) (digits : String) : String :=
  match d.precision with
  | none => digits
  | some precision =>
    if precision == 0 && digits == "0" then ""
    else String.ofList (List.replicate (precision - digits.length) '0') ++ digits

/-- An integer in decimal digits. -/
def integer (d : Directive) (n : Int) : String :=
  d.fill (d.sign (n < 0)) d.precision.isNone (d.padded (toString n.natAbs))

/-- The digits of a number to a base, in upper case if the conversion is. -/
def digits (d : Directive) (n : Nat) : String :=
  let base := match d.conversion with
    | 'o' => 8
    | 'x' | 'X' => 16
    | _ => 10
  let text := String.ofList (Nat.toDigits base n)
  if d.conversion == 'X' then text.toUpper else text

/-- A natural number to the base of the conversion. -/
def natural (d : Directive) (n : Nat) : String :=
  let digits := d.padded (d.digits n)
  let isMarked := d.has '#' && n != 0
  match d.conversion with
  | 'x' => d.fill (if isMarked then "0x" else "") d.precision.isNone digits
  | 'X' => d.fill (if isMarked then "0X" else "") d.precision.isNone digits
  | 'o' => d.fill "" d.precision.isNone (if d.has '#' && !digits.startsWith "0" then "0" ++ digits else digits)
  | _ => d.fill "" d.precision.isNone digits

/-- The beginning of a text, as long as the precision allows. -/
def text (d : Directive) (s : String) : String :=
  d.fill "" false (match d.precision with
    | none => s
    | some precision => String.ofList (s.toList.take precision))

/-! ## RealValue numbers -/

/-- A quotient rounded to the nearest natural number; a half goes to the even neighbour. -/
def roundedQuotient (numerator denominator : Nat) : Nat :=
  let q := numerator / denominator
  let r := 2 * (numerator % denominator)
  if r < denominator || (r == denominator && q % 2 == 0) then q else q + 1

/-- The exponent of the greatest power of two that is at most a positive number. -/
def binaryExponent (numerator denominator : Nat) : Int :=
  let e : Int := Nat.log2 numerator - Nat.log2 denominator
  if denominator * Decimal.twoTo e.toNat ≤ numerator * Decimal.twoTo (-e).toNat then e else e - 1

/-- Digits with a point before the last so many of them. -/
def withPoint (d : Directive) (places : Nat) (n : Nat) : String :=
  let digits := Nat.toDigits 10 n
  let digits := List.replicate (places + 1 - digits.length) '0' ++ digits
  let whole := String.ofList (digits.take (digits.length - places))
  if places == 0 then if d.has '#' then whole ++ "." else whole
  else whole ++ "." ++ String.ofList (digits.drop (digits.length - places))

/-- A positional number with so many places. -/
def fixed (d : Directive) (places numerator denominator : Nat) : String :=
  d.withPoint places (roundedQuotient (numerator * Decimal.tenTo places) denominator)

/-- The exponent of the first digit of a positive number. -/
def exponentOf (numerator denominator : Nat) : Int :=
  if denominator ≤ numerator then Decimal.width (numerator / denominator) - 1
  else
    let count := Decimal.width (denominator / numerator)
    if denominator ≤ numerator * Decimal.tenTo (count - 1) then -((count - 1 : Nat) : Int) else -(count : Int)

/-- The digits of a number with one digit before the point and so many places, as one number, and its exponent. -/
def mantissa (places numerator denominator : Nat) : Nat × Int :=
  if numerator == 0 then (0, 0)
  else
    let e := exponentOf numerator denominator
    let shift : Int := places - e
    let n := roundedQuotient (numerator * Decimal.tenTo shift.toNat) (denominator * Decimal.tenTo (-shift).toNat)
    if n == Decimal.tenTo (places + 1) then (n / 10, e + 1) else (n, e)

/-- A number with an exponent. -/
def scientific (d : Directive) (n : Nat) (places : Nat) (e : Int) : String :=
  let mark := if d.conversion.isUpper then "E" else "e"
  let size := toString e.natAbs
  d.withPoint places n ++ mark ++ (if e < 0 then "-" else "+") ++ (if size.length < 2 then "0" ++ size else size)

/-- A text without the zeros after a point at its end, and the point if none are left. -/
def dropZeros (s : String) : String :=
  if s.toList.contains '.' then
    let rest := s.toList.reverse.dropWhile (· == '0')
    String.ofList (if rest.head? == some '.' then rest.drop 1 else rest).reverse
  else s

/-- The shorter of the positional form and that with an exponent, with so many digits. -/
def general (d : Directive) (numerator denominator : Nat) : String :=
  let count := max 1 (d.precision.getD 6)
  let (n, e) := mantissa (count - 1) numerator denominator
  if -4 ≤ e && e < count then
    let text := d.fixed (count - 1 - e).toNat numerator denominator
    if d.has '#' then text else dropZeros text
  else if d.has '#' then d.scientific n (count - 1) e
  else
    let short := (List.range count).find? fun places => n % Decimal.tenTo (count - 1 - places) == 0
    let places := short.getD (count - 1)
    d.scientific (n / Decimal.tenTo (count - 1 - places)) places e

/-- A finite number in sixteenths: a digit before the point, as many as fill the number after it, and a power of two.
The first digit holds the binary digits that are left when the others are put in groups of four. -/
def sixteenths (kind : FloatKind) (d : Directive) (numerator denominator : Nat) : String :=
  let most := (kind.digits - 1) / 4
  let first : Int := kind.digits - 1 - 4 * most
  let e := if numerator == 0 then 0
    else max (kind.least + 4 * most) (binaryExponent numerator denominator - first)
  -- the number in units of `2 ^ (e - 4 * most)`
  let up := Decimal.twoTo (4 * most - e).toNat
  let down := Decimal.twoTo (e - 4 * most).toNat
  let bits := numerator * up / (denominator * down)
  let places := min most (d.precision.getD most)
  let n := roundedQuotient bits (Decimal.twoTo (4 * (most - places)))
  let (n, e) := if 16 * Decimal.twoTo (4 * places) ≤ n then (n / 16, e + 4) else (n, e)
  let digits := Nat.toDigits 16 (n % Decimal.twoTo (4 * places) + Decimal.twoTo (4 * places))
  let digits := digits.drop 1
  let digits := match d.precision with
    | none => (digits.reverse.dropWhile (· == '0')).reverse
    | some precision => digits ++ List.replicate (precision - most) '0'
  let point := if digits.isEmpty && !d.has '#' then "" else "."
  String.ofList (Nat.toDigits 16 (n / Decimal.twoTo (4 * places))) ++ point ++ String.ofList digits ++ "p" ++
    (if e < 0 then "-" else "+") ++ toString e.natAbs

/-- A real number of a kind. -/
def real (kind : FloatKind) (d : Directive) (x : RealValue) : String :=
  let cased (text : String) : String := if d.conversion.isUpper then text.toUpper else text
  match x with
  | .nan => d.fill (d.sign false) false (cased "nan")
  | .infinite negative => d.fill (d.sign negative) false (cased "inf")
  | .finite negative numerator denominator =>
    let places := d.precision.getD 6
    if d.conversion == 'a' || d.conversion == 'A' then
      d.fill (d.sign negative ++ cased "0x") true (cased (sixteenths kind d numerator denominator))
    else d.fill (d.sign negative) true (match d.conversion with
      | 'e' | 'E' =>
        let (n, e) := mantissa places numerator denominator
        d.scientific n places e
      | 'g' | 'G' => d.general numerator denominator
      | _ => d.fixed places numerator denominator)

end Directive

/-! ## Reading real numbers -/

/-- A number that was read: the nearest number of a kind, and whether it is less exact than such numbers are where they
are not very small. -/
structure RealValue.Reading where
  value : RealValue
  isVague : Bool

/-- The number of a kind that is nearest to a quotient. -/
def RealValue.rounded (kind : FloatKind) (negative : Bool) (numerator denominator : Nat) : RealValue.Reading :=
  if numerator == 0 then ⟨.finite negative 0 1, false⟩
  else
    let top := Directive.binaryExponent numerator denominator + 1
    let unit := max (top - kind.digits) kind.least
    let scaled := numerator * Decimal.twoTo (-unit).toNat
    let size := denominator * Decimal.twoTo unit.toNat
    let n := Directive.roundedQuotient scaled size
    if Decimal.twoTo kind.limit.toNat ≤ n * Decimal.twoTo unit.toNat then ⟨.infinite negative, false⟩
    else
      ⟨.finite negative (n * Decimal.twoTo unit.toNat) (Decimal.twoTo (-unit).toNat),
        n < Decimal.twoTo (kind.digits - 1) && scaled % size != 0⟩

/-- The number of a kind that is nearest to a decimal. -/
def RealValue.ofDecimal (kind : FloatKind) (negative : Bool) (d : Decimal) : RealValue.Reading :=
  let magnitude := d.exponent + Decimal.width d.digits
  if d.digits == 0 then ⟨.finite negative 0 1, false⟩
  else if kind.limit < magnitude then ⟨.infinite negative, false⟩
  else if magnitude < kind.least then ⟨.finite negative 0 1, true⟩
  else RealValue.rounded kind negative (d.digits * Decimal.tenTo d.exponent.toNat) (Decimal.tenTo (-d.exponent).toNat)

/-- The number of a kind that is nearest to `digits · 2 ^ exponent`. -/
def RealValue.ofBinary (kind : FloatKind) (negative : Bool) (digits : Nat) (exponent : Int) : RealValue.Reading :=
  let magnitude := exponent + (Nat.log2 digits + 1 : Nat)
  if digits == 0 then ⟨.finite negative 0 1, false⟩
  else if kind.limit < magnitude then ⟨.infinite negative, false⟩
  else if magnitude < kind.least then ⟨.finite negative 0 1, true⟩
  else RealValue.rounded kind negative (digits * Decimal.twoTo exponent.toNat) (Decimal.twoTo (-exponent).toNat)

/-- The number that decimal digits stand for. -/
def decimalValue (cs : List Char) : Nat :=
  cs.foldl (fun n c => 10 * n + (c.toNat - '0'.toNat)) 0

/-- The exponent at the beginning, after a letter in either case, and what follows it. -/
def exponentAfter (letter : Char) (cs : List Char) : Int × List Char :=
  let digits (negative : Bool) (rest : List Char) : Int × List Char :=
    if rest.head?.any Char.isDigit then
      let n : Int := decimalValue (rest.takeWhile Char.isDigit)
      (if negative then -n else n, rest.dropWhile Char.isDigit)
    else (0, cs)
  match cs with
  | e :: '-' :: rest => if e.toLower == letter then digits true rest else (0, cs)
  | e :: '+' :: rest => if e.toLower == letter then digits false rest else (0, cs)
  | e :: rest => if e.toLower == letter then digits false rest else (0, cs)
  | [] => (0, cs)

/-- The value of a digit to base sixteen. -/
def hexValue (c : Char) : Nat :=
  if c.isDigit then c.toNat - 48 else c.toLower.toNat - 87

/-- Whether a character is a digit to base sixteen. -/
def isHexChar (c : Char) : Bool :=
  c.isDigit || ('a' ≤ c.toLower && c.toLower ≤ 'f')

/-- Digits at the beginning, those after a point, and what follows them. -/
def digitsAndPlaces (isDigit : Char → Bool) (cs : List Char) : List Char × List Char × List Char :=
  match cs.dropWhile isDigit with
  | '.' :: rest => (cs.takeWhile isDigit, rest.takeWhile isDigit, rest.dropWhile isDigit)
  | rest => (cs.takeWhile isDigit, [], rest)

/-- The number to base sixteen after its mark, and what follows it; there has to be a digit. -/
def hexNumber? (kind : FloatKind) (negative : Bool) (cs : List Char) : Option (RealValue.Reading × List Char) :=
  let (whole, places, after) := digitsAndPlaces isHexChar cs
  if whole.isEmpty && places.isEmpty then none
  else
    let (exponent, after) := exponentAfter 'p' after
    let digits := (whole ++ places).foldl (fun n c => 16 * n + hexValue c) 0
    some (RealValue.ofBinary kind negative digits (exponent - 4 * places.length), after)

/-- What follows a text in parentheses that may come after `nan`. -/
def afterNote (cs : List Char) : List Char :=
  match cs with
  | '(' :: rest =>
    match rest.dropWhile fun c => c.isAlphanum || c == '_' with
    | ')' :: after => after
    | _ => cs
  | _ => cs

/-- The real number of a kind at the beginning of a text, after blanks, and what follows it. -/
def RealValue.read? (kind : FloatKind) (cs : List Char) : Option (RealValue.Reading × List Char) :=
  let cs := cs.dropWhile fun c => c == ' ' || (9 ≤ c.toNat && c.toNat ≤ 13)
  let (negative, cs) := match cs with
    | '-' :: cs => (true, cs)
    | '+' :: cs => (false, cs)
    | cs => (false, cs)
  let lower := cs.map Char.toLower
  if "infinity".toList.isPrefixOf lower then some (⟨.infinite negative, false⟩, cs.drop 8)
  else if "inf".toList.isPrefixOf lower then some (⟨.infinite negative, false⟩, cs.drop 3)
  else if "nan".toList.isPrefixOf lower then some (⟨.nan, false⟩, afterNote (cs.drop 3))
  else
    match if "0x".toList.isPrefixOf lower then hexNumber? kind negative (cs.drop 2) else none with
    | some result => some result
    | none =>
      let (whole, places, after) := digitsAndPlaces Char.isDigit cs
      if whole.isEmpty && places.isEmpty then none
      else
        let (exponent, after) := exponentAfter 'e' after
        some (RealValue.ofDecimal kind negative ⟨decimalValue (whole ++ places), exponent - places.length⟩, after)

/-- The value of the real number at the beginning of a text, after blanks, and what follows it. -/
def RealValue.front? (kind : FloatKind) (cs : List Char) : Option (RealValue × List Char) :=
  (RealValue.read? kind cs).map fun (reading, rest) => (reading.value, rest)

end Rebuild.Text
