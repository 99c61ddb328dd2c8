import Rebuild.Text.CaseTable

/-!
# Lower case

Every character goes to its lower-case form. Two have a rule of their own: the capital I with a dot becomes an i and a
combining dot, and the capital sigma becomes the final sigma where it ends a word (`endsWord`).
-/

namespace Rebuild.Text

/-- The code point of a character's simple lower-case form. -/
def CaseRun.lower? (r : CaseRun) (n : Nat) : Option Nat :=
  if r.first ≤ n && n ≤ r.last && (n - r.first) % r.stride == 0 then some (Int.toNat (n + r.offset)) else none

/-- A character's simple lower-case form. -/
def lowerChar (c : Char) : Char :=
  match lowerRuns.findSome? (·.lower? c.toNat) with
  | some n => Char.ofNat n
  | none => c

/-- Whether the first character that does not have the property `Case_Ignorable` has the property `Cased`. -/
def meetsCased (cs : List Char) : Bool :=
  match cs.dropWhile (inRanges caseIgnorableRanges) with
  | [] => false
  | c :: _ => inRanges casedRanges c

/-- Whether a capital sigma between these characters, the nearest first on both sides, ends a word. -/
def endsWord (before after : List Char) : Bool :=
  meetsCased before && !meetsCased after

/-- The lower-case form of the characters that follow `before`, which is reversed. -/
def lowerAfter (before : List Char) : List Char → List Char
  | [] => []
  | c :: rest =>
    let lowered :=
      if c == 'Σ' then [if endsWord before rest then 'ς' else 'σ']
      else if c == 'İ' then ['i', '\u0307']
      else [lowerChar c]
    lowered ++ lowerAfter (c :: before) rest

/-- The lower-case form of a text. -/
def lowerCase (s : String) : String :=
  String.ofList (lowerAfter [] s.toList)

end Rebuild.Text
