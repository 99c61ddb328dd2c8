/-!
# Blank characters, words and trimming

- `isBlank` is the Unicode property `White_Space`;
- the words of a text are its maximal runs of other characters (`words`), none of which is empty
  (`ne_nil_of_mem_words`);
- `trim` drops the blanks at both ends.
-/

namespace Rebuild.Text

/-- The characters with the Unicode property `White_Space`. -/
def isBlank (c : Char) : Bool :=
  let n := c.toNat
  (9 ≤ n && n ≤ 13) || n == 0x20 || n == 0x85 || n == 0xA0 || n == 0x1680 || (0x2000 ≤ n && n ≤ 0x200A) ||
    n == 0x2028 || n == 0x2029 || n == 0x202F || n == 0x205F || n == 0x3000

/-! ## Words -/

/-- The maximal runs of non-blank characters, in order. -/
def wordsOfChars (cs : List Char) : List (List Char) :=
  (cs.splitOnP isBlank).filter fun w => !w.isEmpty

/-- The words of a text, in order. -/
def words (s : String) : List String :=
  (wordsOfChars s.toList).map String.ofList

/-- No word is empty. -/
theorem ne_nil_of_mem_words {cs w : List Char} (h : w ∈ wordsOfChars cs) : w ≠ [] := by
  have := (List.mem_filter.mp h).2
  simpa using this

/-! ## Trimming -/

/-- The characters without the blanks at both ends. -/
def trimChars (cs : List Char) : List Char :=
  ((cs.dropWhile isBlank).reverse.dropWhile isBlank).reverse

/-- The text without the blanks at both ends. -/
def trim (s : String) : String :=
  String.ofList (trimChars s.toList)

/-- Whether a text holds nothing but blanks. -/
def isBlankText (s : String) : Bool :=
  s.toList.all isBlank

end Rebuild.Text
