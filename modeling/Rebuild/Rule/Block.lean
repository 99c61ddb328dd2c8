import Rebuild.Text.Blank
import Rebuild.Text.Line

/-!
# Blocks of a rule text

A block is a maximal run of lines that are not blank. `Block.ofText` gives each block its first line's number and its
words. A carriage return is blank, so it does not matter here whether one ends a line.
-/

namespace Rebuild

/-- The number of a block's first line, from 1, and the words of its lines in order. -/
structure Block where
  line : Nat
  words : List String
deriving DecidableEq, Repr

namespace Block

/-- The blocks of lines given by their words, the first of which has the number `n`. -/
def ofLines (n : Nat) : List (List String) → List Block
  | [] => []
  | [] :: rest => ofLines (n + 1) rest
  | (w :: ws) :: rest =>
    let more := rest.takeWhile (!·.isEmpty)
    ⟨n, ((w :: ws) :: more).flatten⟩ :: ofLines (n + 1 + more.length) (rest.dropWhile (!·.isEmpty))
termination_by lines => lines.length
decreasing_by
  · simp
  · have := (List.dropWhile_sublist (l := rest) (!·.isEmpty)).length_le
    simp; omega

/-- The blocks of a text. -/
def ofText (text : String) : List Block :=
  ofLines 1 ((Text.pieces text).map fun piece => (Text.wordsOfChars piece).map String.ofList)

end Block

end Rebuild
