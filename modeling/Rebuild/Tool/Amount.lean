import Rebuild.Text.ShellQuoted
import Rebuild.Tool.Options

/-!
# Arguments that are numbers or choices

A number may be followed by a letter that is its unit, and has to lie within bounds. A choice is one of a few names, of
which a beginning is enough.
-/

namespace Rebuild.Tool

open Text

/-! ## Numbers -/

/-- What is wrong with a text that is to be a number. -/
inductive AmountFault where
  | malformed
  | tooLarge
  | outOfRange
deriving DecidableEq, Repr

/-- What a complaint says after the text of a number. -/
def AmountFault.text : AmountFault → String
  | .malformed => ""
  | .tooLarge => ": Value too large for defined data type"
  | .outOfRange => ": Numerical result out of range"

/-- A unit: the number whose power it is, the power, and how many characters it has. -/
structure AmountUnit where
  base : Nat
  power : Nat
  width : Nat

/-- The unit that a text begins with, of those whose letters are allowed. Among these a zero stands for the second
letters of powers of a thousand. -/
def AmountUnit.front? (units : String) (cs : List Char) : Option AmountUnit :=
  let power? : Option Nat := match cs.head? with
    | some 'k' | some 'K' => some 1
    | some 'm' | some 'M' => some 2
    | some 'g' | some 'G' => some 3
    | some 't' | some 'T' => some 4
    | some 'P' => some 5
    | some 'E' => some 6
    | some 'Z' => some 7
    | some 'Y' => some 8
    | some 'R' => some 9
    | some 'Q' => some 10
    | _ => none
  match cs.head?.filter units.toList.contains, power? with
  | none, _ => none
  | some _, some power =>
    match if units.toList.contains '0' then cs.drop 1 else [] with
    | 'i' :: 'B' :: _ => some ⟨1024, power, 3⟩
    | 'B' :: _ | 'D' :: _ => some ⟨1000, power, 2⟩
    | _ => some ⟨1024, power, 1⟩
  | some 'b', none => some ⟨512, 1, 1⟩
  | some 'B', none => some ⟨1024, 1, 1⟩
  | some 'c', none => some ⟨1, 1, 1⟩
  | some 'w', none => some ⟨2, 1, 1⟩
  | some _, none => none

/-- The number that a text of digits and at most one unit spells, between two bounds of which the lesser tells whether
it may have a sign. -/
def amountOf (units : String) (least most : Int) (text : String) : Except AmountFault Int :=
  let isBlank (c : Char) : Bool := c == ' ' || (9 ≤ c.toNat && c.toNat ≤ 13)
  let cs := text.toList.dropWhile isBlank
  let isNegative := cs.head? == some '-'
  let cs := if isNegative || cs.head? == some '+' then cs.drop 1 else cs
  let digits := cs.takeWhile Char.isDigit
  if isNegative && 0 ≤ least then .error .malformed
  else if digits.isEmpty && (AmountUnit.front? units text.toList).isNone then .error .malformed
  else
    let number := if digits.isEmpty then 1 else (String.ofList digits).toNat?.getD 0
    let rest := if digits.isEmpty then text.toList else cs.drop digits.length
    let bound := if least < 0 then Nat.pow 2 63 else Nat.pow 2 64
    let value (size : Nat) : Except AmountFault Int :=
      let signed : Int := if isNegative then -size else size
      if (if isNegative then bound < size else bound ≤ size) then .error .tooLarge
      else if signed < least || most < signed then
        .error (if 1073741823 < size then .tooLarge else .outOfRange)
      else .ok signed
    match rest, AmountUnit.front? units rest with
    | [], _ => value number
    | _, none => .error .malformed
    | rest, some unit =>
      if (rest.drop unit.width).isEmpty then value (number * Nat.pow unit.base unit.power) else .error .malformed

/-- The greatest number that fits in 64 bits, without a sign or with one. -/
def greatestNatural : Int := 18446744073709551615

/-- The greatest number that fits in 64 bits with a sign. -/
def greatestInteger : Int := 9223372036854775807

/-- The units that most counts may have. -/
def usualUnits : String := "bkKmMGTPEZYRQ0"

/-- The number that an argument is; what is wrong with it ends the program with an exit code. -/
def readAmount (name complaint : String) (code : Nat) (units : String) (least most : Int) (text : String) :
    ToolM Int := do
  match amountOf units least most text with
  | .ok n => pure n
  | .error fault => fail name s!"{complaint}: {plainlyQuoted text}{fault.text}" code

/-- The natural number that an argument is. -/
def readCount (name complaint units : String) (least : Nat) (text : String) : ToolM Nat := do
  pure (← readAmount name complaint 1 units least greatestNatural text).toNat

/-! ## Choices -/

/-- The choice with a name that begins with a text; no choice, or several that differ, end the program with an exit
code. -/
def readChoice [BEq α] (name option : String) (code : Nat) (choices : List (String × α)) (text : String) : ToolM α := do
  let found := choices.filter fun choice => choice.1.startsWith text
  match choices.find? (·.1 == text), found with
  | some choice, _ => pure choice.2
  | none, first :: others =>
    if others.all (·.2 == first.2) then pure first.2 else refuse "ambiguous"
  | none, [] => refuse "invalid"
where
  /-- Complains of a choice and lists those that there are, those that mean the same in one line. -/
  refuse (wording : String) : ToolM α := do
    complain name s!"{wording} argument {plainlyQuoted text} for {plainlyQuoted option}"
    let lines := choices.zipIdx.map fun (choice, i) =>
      let isSame := (choices[i - 1]?.filter fun _ => 0 < i).any (·.2 == choice.2)
      (if isSame then ", " else "\n  - ") ++ plainlyQuoted choice.1
    ExceptT.lift (Process.sayError ("Valid arguments are:" ++ String.join lines ++ "\n"))
    ExceptT.lift (Process.sayError s!"Try '{name} --help' for more information.\n")
    quit code

end Rebuild.Tool
