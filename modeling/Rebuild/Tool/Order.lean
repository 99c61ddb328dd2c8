import Rebuild.Decimal
import Rebuild.Text.Format
import Rebuild.Tool.Input

/-!
# Orders of lines

Lines are compared by keys, each a part of the line with an order of its own: by bytes, as numbers of several kinds, as
months or as versions.
-/

namespace Rebuild.Tool

open Text

/-! ## Keys -/

/-- Which bytes of a key do not count. -/
inductive KeyFilter where
  | nothing
  /-- Those that are neither letters nor digits nor blanks. -/
  | nonDictionary
  | nonPrinting
deriving DecidableEq, Repr

/-- A key: the part of a line, and how it is compared. -/
structure SortKey where
  /-- The field and the character in it where the key starts, counted from zero. -/
  firstField : Nat := 0
  firstChar : Nat := 0
  /-- The field where the key ends, counted from zero, and the character after which it does, or zero for the whole
  field. -/
  lastField : Option Nat := none
  lastChar : Nat := 0
  skipsBlanksFirst : Bool := false
  skipsBlanksLast : Bool := false
  isNumeric : Bool := false
  isGeneral : Bool := false
  isHuman : Bool := false
  isMonth : Bool := false
  isVersion : Bool := false
  isRandom : Bool := false
  isReverse : Bool := false
  ignoresCase : Bool := false
  ignored : KeyFilter := .nothing
deriving DecidableEq, Repr

/-- Which end of a key letters belong to. -/
inductive KeyEnd where
  | first
  | last
  | both
deriving DecidableEq, Repr

namespace SortKey

/-- Whether a key is compared in the usual way, if perhaps in reverse. -/
def isUsual (k : SortKey) : Bool :=
  !(k.skipsBlanksFirst || k.skipsBlanksLast || k.isNumeric || k.isGeneral || k.isHuman || k.isMonth || k.isVersion ||
    k.isRandom || k.ignoresCase) && k.ignored == .nothing

/-- A key that is compared in the way of another. -/
def comparedAs (k other : SortKey) : SortKey :=
  { other with firstField := k.firstField, firstChar := k.firstChar, lastField := k.lastField, lastChar := k.lastChar }

/-- A key to which a letter was added. -/
def withLetter? (k : SortKey) (place : KeyEnd) (letter : Char) : Option SortKey :=
  match letter with
  | 'b' =>
    some { k with
      skipsBlanksFirst := k.skipsBlanksFirst || place != .last
      skipsBlanksLast := k.skipsBlanksLast || place != .first }
  | 'd' => some { k with ignored := .nonDictionary }
  | 'f' => some { k with ignoresCase := true }
  | 'g' => some { k with isGeneral := true }
  | 'h' => some { k with isHuman := true }
  | 'i' => some (if k.ignored == .nothing then { k with ignored := .nonPrinting } else k)
  | 'M' => some { k with isMonth := true }
  | 'n' => some { k with isNumeric := true }
  | 'R' => some { k with isRandom := true }
  | 'r' => some { k with isReverse := true }
  | 'V' => some { k with isVersion := true }
  | _ => none

/-- A key to which the letters at the beginning of a text were added, and what follows them. -/
def withLetters (k : SortKey) (place : KeyEnd) : List Char → SortKey × List Char
  | [] => (k, [])
  | c :: cs =>
    match k.withLetter? place c with
    | some k => k.withLetters place cs
    | none => (k, c :: cs)

/-- The letters of the orders of a key that exclude each other, if there are several. -/
def conflict? (k : SortKey) : Option String :=
  let isIgnoring := k.ignored != .nothing
  let count :=
    ([k.isNumeric, k.isGeneral, k.isHuman, k.isMonth, k.isVersion || k.isRandom || isIgnoring].filter id).length
  if count ≤ 1 then none
  else
    let letters := [(k.ignored == .nonDictionary, 'd'), (k.ignoresCase, 'f'), (k.isGeneral, 'g'), (k.isHuman, 'h'),
      (k.ignored == .nonPrinting, 'i'), (k.isMonth, 'M'), (k.isNumeric, 'n'), (k.isRandom, 'R'), (k.isVersion, 'V')]
    some (String.ofList ((letters.filter Prod.fst).map Prod.snd))

end SortKey

/-! ## Parts of lines -/

/-- Whether a byte separates fields where no other is given. -/
def isFieldBlank (c : Char) : Bool :=
  c == ' ' || c == '\t' || c == '\n'

/-- What is left of a line after so many fields; a field takes the blanks before it along. -/
def dropFields (separator : Option Char) (count : Nat) (cs : Line) : Line :=
  match count, cs with
  | 0, cs => cs
  | _, [] => []
  | count + 1, cs =>
    match separator with
    | some c => dropFields separator count ((cs.dropWhile (· != c)).drop 1)
    | none => dropFields separator count ((cs.dropWhile isFieldBlank).dropWhile fun c => !isFieldBlank c)

/-- The part of a line that is a key. -/
def SortKey.part (k : SortKey) (separator : Option Char) (line : Line) : Line :=
  let start := dropFields separator k.firstField line
  let start := if k.skipsBlanksFirst then start.dropWhile isFieldBlank else start
  let start := start.drop k.firstChar
  match k.lastField with
  | none => start
  | some field =>
    let after :=
      if k.lastChar == 0 then
        match separator with
        | some c => (dropFields separator field line).dropWhile (· != c)
        | none => dropFields none (field + 1) line
      else
        let rest := dropFields separator field line
        (if k.skipsBlanksLast then rest.dropWhile isFieldBlank else rest).drop k.lastChar
    start.take (start.length - after.length)

/-! ## Orders -/

/-- Compares lines by their bytes. -/
def compareBytes : Line → Line → Ordering
  | [], [] => .eq
  | [], _ :: _ => .lt
  | _ :: _, [] => .gt
  | a :: as, b :: bs => if a < b then .lt else if b < a then .gt else compareBytes as bs

/-- The decimal number at the beginning, as a number of units and the number of its places, and what follows. -/
def numberAt (cs : Line) : Int × Nat × Line :=
  let cs := cs.dropWhile isFieldBlank
  let (negative, cs) := match cs with
    | '-' :: cs => (true, cs)
    | cs => (false, cs)
  let (whole, fraction, after) := digitsAndPlaces Char.isDigit cs
  let n : Int := decimalValue (whole ++ fraction)
  (if negative then -n else n, fraction.length, after)

/-- Compares numbers of units with their places. -/
def compareDecimals (a b : Int × Nat) : Ordering :=
  let x := a.1 * (Decimal.tenTo b.2 : Nat)
  let y := b.1 * (Decimal.tenTo a.2 : Nat)
  compare x y

/-- Compares the real numbers that texts begin with. What is no number comes first, then what is said to be none. -/
def compareReals (a b : Line) : Ordering :=
  let rank : Option RealValue → Nat
    | none => 0
    | some .nan => 1
    | some (.infinite true) => 2
    | some (.finite _ _ _) => 3
    | some (.infinite false) => 4
  let x := (RealValue.front? .extended a).map Prod.fst
  let y := (RealValue.front? .extended b).map Prod.fst
  let signed (negative : Bool) (n : Nat) : Int := if negative then -(n : Int) else n
  match x, y with
  | some (.finite m p q), some (.finite n r s) => compare (signed m p * s) (signed n r * q)
  | x, y => compare (rank x) (rank y)

/-- The months. -/
def monthNames : List String :=
  ["JAN", "FEB", "MAR", "APR", "MAY", "JUN", "JUL", "AUG", "SEP", "OCT", "NOV", "DEC"]

/-- The number of the month that a text begins with, or zero. -/
def monthOf (cs : Line) : Nat :=
  let start := String.ofList (((cs.dropWhile isFieldBlank).take 3).map Char.toUpper)
  ((monthNames.findIdx? (· == start)).map (· + 1)).getD 0

/-- The rank of the unit that follows a number that is not zero. -/
def unitRank (cs : Line) : Nat :=
  match cs.head? with
  | some 'k' | some 'K' => 1
  | some c => ((['M', 'G', 'T', 'P', 'E', 'Z', 'Y', 'R', 'Q'].findIdx? (· == c)).map (· + 2)).getD 0
  | none => 0

/-- Compares numbers with units. -/
def compareHuman (a b : Line) : Ordering :=
  let x := numberAt a
  let y := numberAt b
  let rank (n : Int × Nat × Line) : Int := n.1.sign * (unitRank n.2.2 : Int)
  Ordering.then (compare (rank x) (rank y)) (compareDecimals (x.1, x.2.1) (y.1, y.2.1))

/-! ## Versions -/

/-- The rank of a byte in a version: a tilde comes before the end, the end before digits, then letters, then others. -/
def versionRank (c : Option Char) : Nat :=
  match c with
  | some '~' => 0
  | none => 1
  | some c => if c.isDigit then 2 else if c.isAlpha then c.toNat + 2 else c.toNat + 258

/-- Compares versions: runs of digits as numbers, other bytes by their rank, at most so many of both. -/
def compareRuns (limit : Nat) (a b : Line) : Ordering :=
  match limit with
  | 0 => .eq
  | limit + 1 =>
    let isText (c : Char) : Bool := !c.isDigit
    if a.isEmpty && b.isEmpty then .eq
    else if a.head?.any isText || b.head?.any isText then
      Ordering.then (compare (versionRank a.head?) (versionRank b.head?)) (compareRuns limit (a.drop 1) (b.drop 1))
    else
      let value (cs : Line) : Nat := decimalValue (cs.takeWhile Char.isDigit)
      Ordering.then (compare (value a) (value b))
        (compareRuns limit (a.dropWhile Char.isDigit) (b.dropWhile Char.isDigit))

/-- How long a name is without the endings that begin with a point and a letter, given the length of what was seen and
of what is certain. -/
def stemLength (limit seen stem : Nat) (cs : Line) : Nat :=
  match limit, cs with
  | 0, _ | _, [] => stem
  | limit + 1, '.' :: c :: rest =>
    if 0 < seen && (c.isAlpha || c == '~') then
      let more := (rest.takeWhile fun c => c.isAlphanum || c == '~').length
      stemLength limit (seen + 2 + more) stem (rest.drop more)
    else stemLength limit (seen + 1) (seen + 1) (c :: rest)
  | limit + 1, _ :: rest => stemLength limit (seen + 1) (seen + 1) rest

/-- Compares names by the versions in them: first without their endings, then with them. Names that begin with a point
come first. -/
def compareVersions (a b : Line) : Ordering :=
  let rank : Line → Nat
    | [] => 0
    | ['.'] => 1
    | ['.', '.'] => 2
    | '.' :: _ => 3
    | _ => 4
  let limit := a.length + b.length + 1
  let stem (cs : Line) : Line := cs.take (stemLength (cs.length + 1) 0 0 cs)
  Ordering.then (compare (rank a) (rank b))
    (if rank a < 3 then .eq
    else Ordering.then (compareRuns limit (stem a) (stem b)) (compareRuns limit a b))

/-! ## Comparing keys -/

/-- The bytes of a part of a line that count, in one case if that does not matter. -/
def SortKey.prepared (k : SortKey) (cs : Line) : Line :=
  let cs := match k.ignored with
    | .nothing => cs
    | .nonDictionary => cs.filter fun c => c.isAlphanum || isFieldBlank c
    | .nonPrinting => cs.filter isPrintableByte
  if k.ignoresCase then cs.map Char.toUpper else cs

/-- Compares two parts of lines. -/
def SortKey.compare (k : SortKey) (a b : Line) : Ordering :=
  let a := k.prepared a
  let b := k.prepared b
  let result :=
    if k.isNumeric then
      let x := numberAt a
      let y := numberAt b
      compareDecimals (x.1, x.2.1) (y.1, y.2.1)
    else if k.isGeneral then compareReals a b
    else if k.isHuman then compareHuman a b
    else if k.isMonth then Ord.compare (monthOf a) (monthOf b)
    else if k.isVersion then compareVersions a b
    else compareBytes a b
  if k.isReverse then result.swap else result

end Rebuild.Tool
