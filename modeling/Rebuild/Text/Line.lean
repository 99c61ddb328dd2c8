/-!
# Lines of a text

A line ends at a line feed, which takes one carriage return right before it along. What follows the last line feed is a
line only if it is not empty.
-/

namespace Rebuild.Text

/-- The pieces between line feeds: one more than there are line feeds. -/
def pieces (s : String) : List (List Char) :=
  s.toList.splitOnP (· == '\n')

/-- A piece that a line feed ended, without a carriage return at its end. -/
def dropReturn (cs : List Char) : List Char :=
  if cs.getLast? = some '\r' then cs.dropLast else cs

/-- The lines that the pieces between line feeds stand for. -/
def linesOfPieces : List (List Char) → List (List Char)
  | [] => []
  | [last] => if last.isEmpty then [] else [last]
  | piece :: rest => dropReturn piece :: linesOfPieces rest

/-- The lines of a text, without their ends. -/
def lines (s : String) : List String :=
  (linesOfPieces (pieces s)).map String.ofList

end Rebuild.Text
