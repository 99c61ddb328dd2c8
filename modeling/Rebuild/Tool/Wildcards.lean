import Rebuild.Shell.Pattern

/-!
# Names that are like a pattern

In a pattern a star stands for any bytes, a question mark for one and brackets for some, unless a backslash quotes them.
-/

namespace Rebuild.Tool

open Text

/-- Whether a text matches a pattern, in which backslashes quote. -/
def fits (ignoresCase : Bool) (pattern text : String) : Bool :=
  let cased (s : String) : List Char := byteChars (if ignoresCase then s.toLower else s)
  Shell.matchesPattern (marked (cased pattern)) (cased text)
where
  /-- The bytes of a pattern, those after backslashes quoted. -/
  marked : List Char → Shell.Marked
    | '\\' :: c :: rest => (c, true) :: marked rest
    | c :: rest => (c, false) :: marked rest
    | [] => []

end Rebuild.Tool
