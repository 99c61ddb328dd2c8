/-!
# Decimal numbers and floating-point numbers

A decimal is a natural number times a power of ten. `ofFloat?` gives the decimal with the fewest digits that reads back
as a floating-point number, and of these the nearest to it; `positional` writes a decimal without an exponent.
-/

namespace Rebuild

/-- The number `digits · 10 ^ exponent`. -/
structure Decimal where
  digits : Nat
  exponent : Int
deriving DecidableEq, Repr

namespace Decimal

/-! ## To floating-point numbers -/

/-- The number of digits of a natural number. -/
def width (n : Nat) : Nat :=
  (Nat.toDigits 10 n).length

/-- The nearest floating-point number; none if it lies beyond all of them. -/
def toFloat? (d : Decimal) : Option Float :=
  let magnitude := d.exponent + width d.digits
  if d.digits == 0 || magnitude < -400 then some 0
  else if magnitude > 400 then none
  else
    let f := Float.ofScientific d.digits (d.exponent < 0) d.exponent.natAbs
    if f.isInf then none else some f

/-! ## From floating-point numbers -/

/-- A power of two. -/
def twoTo (n : Nat) : Nat :=
  Nat.pow 2 n

/-- A power of ten. -/
def tenTo (n : Nat) : Nat :=
  Nat.pow 10 n

/-- The reals that read as one floating-point number: the number itself and the two ends as numerators over a common
denominator, and whether the ends belong to them. -/
structure Interval where
  low : Nat
  value : Nat
  high : Nat
  denominator : Nat
  closed : Bool

/-- The interval of the positive floating-point number with these exponent and fraction bits. -/
def Interval.ofBits (exponent fraction : Nat) : Interval :=
  let m := if exponent == 0 then fraction else fraction + twoTo 52
  -- the number is `m · 2 ^ (e - 1075)`
  let e := max exponent 1
  let up := twoTo (e - 1075)
  let down := twoTo (1075 - e)
  let below := if fraction == 0 && 1 < exponent then 1 else 2
  ⟨(4 * m - below) * up, 4 * m * up, (4 * m + 2) * up, 4 * down, m % 2 == 0⟩

/-- Whether a decimal lies in an interval. -/
def Interval.contains (i : Interval) (d : Decimal) : Bool :=
  let n := d.digits * tenTo d.exponent.toNat * i.denominator
  let scale := tenTo (-d.exponent).toNat
  if i.closed then i.low * scale ≤ n && n ≤ i.high * scale else i.low * scale < n && n < i.high * scale

/-- How far a decimal is from the middle of an interval, over a denominator that only its exponent decides. -/
def Interval.distance (i : Interval) (d : Decimal) : Nat :=
  let n := d.digits * tenTo d.exponent.toNat * i.denominator
  let v := i.value * tenTo (-d.exponent).toNat
  (n - v) + (v - n)

/-- The power of ten above the middle of an interval: the least `e` with the middle below `10 ^ e`. -/
def Interval.magnitude (i : Interval) : Int :=
  if i.denominator ≤ i.value then width (i.value / i.denominator)
  else
    match (List.range 400).find? fun j => i.denominator ≤ i.value * tenTo j with
    | some j => 1 - j
    | none => -400

/-- The neighbours of an interval's middle among the multiples of a power of ten. -/
def Interval.neighbours (i : Interval) (exponent : Int) : List Decimal :=
  let below := i.value * tenTo (-exponent).toNat / (i.denominator * tenTo exponent.toNat)
  [⟨below, exponent⟩, ⟨below + 1, exponent⟩]

/-- The nearer of two decimals with the same exponent; the even one if both are as near. -/
def Interval.nearer (i : Interval) (a b : Decimal) : Decimal :=
  if i.distance a < i.distance b || (i.distance a == i.distance b && a.digits % 2 == 0) then a else b

/-- The shortest decimal in an interval, the nearest if there are several. -/
def Interval.shortest? (i : Interval) : Option Decimal :=
  (List.range' 1 17).findSome? fun (n : Nat) =>
    match (i.neighbours (i.magnitude - n)).filter i.contains with
    | [] => none
    | [d] => some d
    | a :: b :: _ => some (i.nearer a b)

/-- A power of ten that was found as the upper neighbour of nines, with one digit less. -/
def dropZero (d : Decimal) : Decimal :=
  if d.digits % 10 == 0 && d.digits != 0 then ⟨d.digits / 10, d.exponent + 1⟩ else d

/-- The shortest decimal that reads as a positive finite floating-point number. -/
def ofFloat? (f : Float) : Option Decimal :=
  let bits := f.toBits.toNat
  let exponent := bits / twoTo 52 % twoTo 11
  let fraction := bits % twoTo 52
  if exponent == twoTo 11 - 1 then none
  else if exponent == 0 && fraction == 0 then some ⟨0, 0⟩
  else (Interval.ofBits exponent fraction).shortest?.map dropZero

/-! ## Text -/

/-- A decimal without an exponent and with at least one place. -/
def positional (d : Decimal) : String :=
  let digits := Nat.toDigits 10 d.digits
  if 0 ≤ d.exponent then
    String.ofList (digits ++ List.replicate d.exponent.toNat '0') ++ ".0"
  else
    let places := (-d.exponent).toNat
    let padded := List.replicate (places + 1 - digits.length) '0' ++ digits
    let cut := padded.length - places
    String.ofList (padded.take cut) ++ "." ++ String.ofList (padded.drop cut)

end Decimal

end Rebuild
