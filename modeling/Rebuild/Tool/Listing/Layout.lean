import Rebuild.Tool.Listing.Style

/-!
# Names on lines

Texts are set in as many columns as fit on a line, downwards or across, with blanks up to the next column, or one after
the other as long as they fit. Columns are two places apart, and no column is narrower than three places.
-/

namespace Rebuild.Tool.ListStyle

/-- How wide the columns are if there are so many, and whether they fit. -/
def columnWidths (s : ListStyle) (width : Nat) (places : List Nat) (columns : Nat) : List Nat × Bool :=
  let rows := (places.length + columns - 1) / columns
  let columnOf (i : Nat) : Nat := if s.layout == .columns then i / rows else i % columns
  let widths := places.zipIdx.foldl (fun widths (size, i) =>
    let column := columnOf i
    widths.modify column (max · (size + if column + 1 == columns then 0 else 2))) (List.replicate columns 3)
  (widths, widths.foldl (· + ·) 0 < width)

/-- How wide the columns are: as many as fit. -/
def bestWidths (s : ListStyle) (width : Nat) (places : List Nat) (columns : Nat) : List Nat :=
  match columns with
  | 0 => []
  | 1 => (s.columnWidths width places 1).1
  | columns + 1 =>
    let (widths, isFitting) := s.columnWidths width places (columns + 1)
    if isFitting then widths else s.bestWidths width places columns

/-- Blanks from a place on a line to another; tabs are used where they lead no farther. -/
def blanks (s : ListStyle) (limit place stop : Nat) : String :=
  match limit with
  | 0 => ""
  | limit + 1 =>
    if stop ≤ place then ""
    else if s.tab != 0 && (place + 1) / s.tab < stop / s.tab then
      "\t" ++ s.blanks limit (place + (s.tab - place % s.tab)) stop
    else " " ++ s.blanks limit (place + 1) stop

/-- A line of texts, each with its places, in columns that begin at a place. -/
def rowText (s : ListStyle) (place : Nat) (texts : List (String × Nat)) (widths : List Nat) : String :=
  match texts, widths with
  | [], _ => ""
  | [(text, _)], _ => text
  | (text, _) :: texts, [] => text ++ rowText s place texts []
  | (text, size) :: texts, width :: widths =>
    text ++ s.blanks (width + 1) (place + size) (place + width) ++ rowText s (place + width) texts widths

/-- Texts in columns. -/
def columnText (s : ListStyle) (width : Nat) (texts : List String) : String :=
  let sized := texts.map fun text => (text, placesOf text)
  let places := sized.map Prod.snd
  let most := min (if width == 0 then texts.length else (width + 2) / 3) texts.length
  let widths := if width == 0 then (s.columnWidths 0 places most).1 else s.bestWidths width places most
  let columns := max 1 widths.length
  let rows := (texts.length + columns - 1) / columns
  let lines := (List.range rows).map fun row =>
    let places := (List.range columns).map fun column =>
      if s.layout == .columns then row + column * rows else row * columns + column
    s.rowText 0 (places.filterMap fun i => sized[i]?) widths
  String.join (lines.map fun line => line ++ s.ending.toString)

/-- Texts with commas between them, on lines that begin anew where a text does not fit. -/
def commaText (s : ListStyle) (width place : Nat) (isFirst : Bool) : List String → String
  | [] => s.ending.toString
  | text :: texts =>
    let size := placesOf text
    let (front, start) :=
      if isFirst then ("", place)
      else if width == 0 || place + size + 2 < width then (", ", place + 2)
      else ("," ++ s.ending.toString, 0)
    front ++ text ++ commaText s width (start + size) false texts

end Rebuild.Tool.ListStyle
