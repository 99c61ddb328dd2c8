import Rebuild.Text.Format
import Rebuild.Tool.Amount
import Rebuild.Tool.Input

/-!
# Numbers from one to another

`seq` prints numbers that are equally far apart. It reckons with floating-point numbers of 80 bits, each operation
rounded, and writes them with as many places as the first number and the step are written with.
-/

namespace Rebuild.Tool

open Text

/-! ## Reckoning -/

/-- The number of 80 bits nearest to a quotient. -/
def extendedNear (numerator : Int) (denominator : Nat) : RealValue :=
  (RealValue.rounded .extended (numerator < 0) numerator.natAbs denominator).value

/-- A number plus a multiple of another. -/
def plusMultiple (a b : RealValue) (count : Nat) : RealValue :=
  match RealValue.quotient? a, RealValue.quotient? b with
  | some (m, p), some (n, q) =>
    match RealValue.quotient? (extendedNear (n * count) q) with
    | some (n, q) => extendedNear (m * q + n * p) (p * q)
    | none => b
  | none, _ => a
  | _, none => b

/-- Whether a number is less than another. -/
def isLess : RealValue → RealValue → Bool
  | _, .infinite true => false
  | .infinite false, _ => false
  | .infinite true, _ => true
  | _, .infinite false => true
  | a, b =>
    match RealValue.quotient? a, RealValue.quotient? b with
    | some (m, p), some (n, q) => m * q < n * p
    | _, _ => false

/-! ## Numbers as they are written -/

/-- A number with the width and the places that it is written with; the latter are unknown of numbers to base
sixteen. -/
structure Term where
  value : RealValue
  width : Int
  places? : Option Int

/-- The number one. -/
def Term.one : Term :=
  ⟨.finite false 1 1, 1, some 0⟩

/-- The width and the places of a decimal number as it is written. -/
def decimalShape (cs : List Char) : Int × Int :=
  let mantissa := cs.takeWhile fun c => c != 'e' && c != 'E'
  let hasPoint := cs.contains '.'
  let whole := mantissa.takeWhile (· != '.')
  let fraction : Int := if hasPoint then ((mantissa.drop (whole.length + 1)).length : Int) else 0
  let added : Int := if !hasPoint then 0 else if fraction == 0 then -1
    else if whole.getLast?.any Char.isDigit then 0 else 1
  let width : Int := cs.length + added
  if mantissa.length == cs.length then (width, fraction)
  else
    let (exponent, _) := exponentAfter 'e' (cs.drop mantissa.length)
    let places := if exponent < 0 then fraction - exponent else fraction - min fraction exponent
    let width := width - ((cs.length : Int) - mantissa.length)
    if exponent < 0 then
      let isBare := !hasPoint || mantissa.getLast? == some '.'
      (width + (if isBare then 1 else 0) - exponent, places)
    else
      let width := if hasPoint && places == 0 && fraction != 0 then width - 1 else width
      (width + exponent - min fraction exponent, places)

/-- The term that an argument is. -/
def readTerm (name text : String) : ToolM Term := do
  let refuse : ToolM Term := failWithHelp name s!"invalid floating point argument: {plainlyQuoted text}" 1
  match RealValue.read? .extended text.toList with
  | some (reading, []) =>
    let cs := text.toList.dropWhile fun c => isSpaceByte c || c == '+'
    let isHex := cs.any fun c => c == 'x' || c == 'X'
    match reading.value with
    | .nan => failWithHelp name s!"invalid 'not-a-number' argument: {plainlyQuoted text}" 1
    | .infinite _ =>
      if !(text.toList.any fun c => c == 'i' || c == 'I') then refuse
      else pure ⟨reading.value, 0, some 0⟩
    | value =>
      if isHex then pure ⟨value, 0, if cs.contains '.' || cs.contains 'p' then none else some 0⟩
      else
        let (width, places) := decimalShape cs
        pure ⟨value, width, some places⟩
  | _ => refuse

/-! ## Formats -/

/-- A format with one directive: what stands before it, the directive, and what stands after it. -/
structure TermFormat where
  start : String := ""
  directive : Directive
  ending : String := ""

/-- A number as a format writes it. -/
def TermFormat.text (f : TermFormat) (x : RealValue) : String :=
  f.start ++ f.directive.real .extended x ++ f.ending

/-- What is wrong with a format. -/
inductive TermFormatFault where
  | none
  | several
  | unfinished
  | unknown (c : Char)
deriving DecidableEq, Repr

/-- The wording of what is wrong with a format. -/
def TermFormatFault.text (format : String) (fault : TermFormatFault) : String :=
  s!"format {plainlyQuoted format} " ++ match fault with
    | .none => "has no % directive"
    | .several => "has too many % directives"
    | .unfinished => "ends in %"
    | .unknown c => s!"has unknown %{c} directive"

/-- The text before the next directive, in which percent signs are doubled, and what follows it. -/
def beforeDirective : List Char → List Char × List Char
  | '%' :: '%' :: cs =>
    let (text, rest) := beforeDirective cs
    ('%' :: text, rest)
  | '%' :: cs => ([], '%' :: cs)
  | c :: cs =>
    let (text, rest) := beforeDirective cs
    (c :: text, rest)
  | [] => ([], [])

/-- The format that a text is. -/
def termFormat (format : String) : Except TermFormatFault TermFormat := do
  let (start, rest) := beforeDirective format.toList
  match rest with
  | [] => throw .none
  | _ :: rest =>
    let flags := rest.takeWhile "-+#0 '".toList.contains
    let rest := rest.drop flags.length
    let width := rest.takeWhile Char.isDigit
    let rest := rest.drop width.length
    let (precision, rest) := match rest with
      | '.' :: rest => (some (decimalValue (rest.takeWhile Char.isDigit)), rest.dropWhile Char.isDigit)
      | rest => (none, rest)
    match if rest.head? == some 'L' then rest.drop 1 else rest with
    | [] => throw .unfinished
    | conversion :: rest =>
      unless "efgaEFGA".toList.contains conversion do throw (.unknown conversion)
      let (ending, rest) := beforeDirective rest
      unless rest.isEmpty do throw .several
      let directive : Directive := ⟨flags.filter (· != '\''), decimalValue width, precision, conversion⟩
      pure ⟨String.ofList start, directive, String.ofList ending⟩

/-- The format of numbers where none is given, perhaps with a common width. -/
def usualFormat (hasWidth : Bool) (first step last : Term) : TermFormat :=
  match first.places?, step.places?, last.places? with
  | some a, some b, some c =>
    let places := max a b
    let firstWidth := first.width + (places - a) + (if a == 0 && places != 0 then 1 else 0)
    let lastWidth := last.width + (places - c) - (if c != 0 && places == 0 then 1 else 0) +
      (if c == 0 && places != 0 then 1 else 0)
    let width := if hasWidth then (max firstWidth lastWidth).toNat else 0
    { directive := ⟨if hasWidth then ['0'] else [], width, some places.toNat, 'f'⟩ }
  | _, _, _ => { directive := ⟨[], 0, none, 'g'⟩ }

/-! ## Progressions -/

/-- Whether a number lies beyond the last. -/
def isBeyond (step last x : RealValue) : Bool :=
  let isFalling := match step with
    | .finite negative numerator _ => negative && numerator != 0
    | .infinite negative => negative
    | .nan => false
  if isFalling then isLess x last else isLess last x

/-- The texts of the numbers from the one with an index on, at most so many. One that lies beyond the last is among them
if it is written like it, and unlike the one before it. -/
def termTexts (f : TermFormat) (first step last : RealValue) (limit index : Nat) (x : RealValue) : List String :=
  match limit with
  | 0 => []
  | limit + 1 =>
    let text := f.text x
    let next := plusMultiple first step index
    if isBeyond step last next then
      let shown := f.directive.real .extended next
      let isLast := match RealValue.read? .extended shown.toList with
        | some (reading, []) => !isLess reading.value last && !isLess last reading.value
        | _ => false
      if isLast && f.text next != text then [text, f.text next] else [text]
    else text :: termTexts f first step last limit (index + 1) next

/-- How many numbers there are from one to another, if that is finite. -/
def termCount? (first step last : RealValue) : Option Nat :=
  match RealValue.quotient? first, RealValue.quotient? step, RealValue.quotient? last with
  | some (a, p), some (b, q), some (c, r) =>
    -- `(c / r - a / p) / (b / q)`
    let numerator := ((c * p - a * r) * q).natAbs
    let denominator := p * r * b.natAbs
    if denominator == 0 then none else some (numerator / denominator + 2)
  | _, _, _ => none

/-- The words up to the first that is a number with a sign, and the rest. -/
def beforeNumbers : List String → List String × List String
  | [] => ([], [])
  | word :: words =>
    let isNumber := match word.toList with
      | '-' :: c :: _ => c == '.' || c.isDigit
      | _ => false
    if isNumber then ([], word :: words)
    else
      let takesNext := word == "-s" || word == "-f" || word == "--separator" || word == "--format"
      match takesNext, words with
      | true, next :: words =>
        let (before, rest) := beforeNumbers words
        (word :: next :: before, rest)
      | _, words =>
        let (before, rest) := beforeNumbers words
        (word :: before, rest)

/-- Prints numbers until there are enough of them; nobody can be thought to read more than so many bytes of a pipe. -/
def printTerms (name separator : String) (f : TermFormat) (first step last : RealValue) : ToolM Nat := do
  if isBeyond step last first then pure 0
  else
    let p ← getThe Process
    let most := p.patience / 2 + 1
    let limit := match termCount? first step last with
      | some count => if p.outlet?.isSome then min count most else count
      | none => most
    let texts := termTexts f first step last limit 1 first
    let isCut := limit ≤ texts.length && (termCount? first step last).all (limit < ·)
    say name (separator.intercalate texts ++ (if isCut then separator else "\n"))
    if isCut then say name separator
    pure 0

/-- Prints the numbers from one to another. -/
def seq : Tool := fun name args => do
  let rules : List OptionRule :=
    [⟨"f", "format", .required⟩, ⟨"s", "separator", .required⟩, ⟨"w", "equal-width", .none⟩]
  let (words, numbers) := beforeNumbers args
  let (options, before) ← readOptions name rules true 1 words
  let operands := before ++ numbers
  if operands.isEmpty then failWithHelp name "missing operand" 1
  match operands[3]? with
  | some extra => failWithHelp name s!"extra operand {plainlyQuoted extra}" 1
  | none => pure ()
  let given? ← match argument? options "format" with
    | none => pure none
    | some format =>
      match termFormat format with
      | .ok f => pure (some f)
      | .error fault => fail name (fault.text format) 1
  let hasWidth := has options "equal-width"
  if given?.isSome && hasWidth then
    failWithHelp name "format string may not be specified when printing equal width strings" 1
  let (first, step, last) ← match operands with
    | [last] => pure (Term.one, Term.one, ← readTerm name last)
    | [first, last] => do
      let first ← readTerm name first
      pure (first, Term.one, ← readTerm name last)
    | first :: step :: last :: _ => do
      let first ← readTerm name first
      let stepTerm ← readTerm name step
      if (RealValue.quotient? stepTerm.value).any (·.1 == 0) then
        failWithHelp name s!"invalid Zero increment value: {plainlyQuoted step}" 1
      pure (first, stepTerm, ← readTerm name last)
    | [] => pure (Term.one, Term.one, Term.one)
  printTerms name ((argument? options "separator").getD "\n") (given?.getD (usualFormat hasWidth first step last))
    first.value step.value last.value

end Rebuild.Tool
