import Rebuild.Tool.Differing.Shown

/-!
# Files side by side

The lines of two files stand in two columns of the same width, which what does not fit is cut to. Between them a mark
tells which line is only on one side, or that lines differ. Tabs fill the gap if the columns begin at tab stops.
-/

namespace Rebuild.Tool

open Text

/-- How wide columns are, and where the second one begins. -/
structure ColumnLayout where
  tabSize : Nat
  expandsTabs : Bool
  width : Nat
  second : Nat

namespace ColumnLayout

/-- The layout of a style: two columns and a gap of at least three places fit into a line, and unless tabs are expanded
the second column begins at a tab stop. -/
def ofStyle (s : DiffStyle) : ColumnLayout :=
  let unit := if s.expandsTabs then 1 else s.tabSize
  let whole := s.width?.getD 130
  let room := unit + 3
  let odd := if whole % 2 == 1 && room % 2 == 1 then 1 else 0
  let free := whole / 2 + room / 2 + odd
  let second := free - free % unit
  let width := min (second - 3) (whole - second)
  ⟨s.tabSize, s.expandsTabs, width, if width == 0 then whole else second⟩

/-- Tabs and spaces from a place to another. -/
def gap (l : ColumnLayout) (limit start stop : Nat) : Line :=
  match limit with
  | 0 => []
  | limit + 1 =>
    let next := start + (l.tabSize - start % l.tabSize)
    if !l.expandsTabs && next ≤ stop then '\t' :: l.gap limit next stop else List.replicate (stop - start) ' '

/-- The part of a line that fits into a column, and the place that it reaches: after so many places of the line, at a
place of the column. -/
def half (l : ColumnLayout) (indent place reached : Nat) : Line → Line × Nat
  | [] => ([], reached)
  | c :: rest =>
    let also (text : Line) (result : Line × Nat) : Line × Nat := (text ++ result.1, result.2)
    if c == '\n' then ([], reached)
    else if c == '\t' then
      let count := l.tabSize - place % l.tabSize
      let stop := reached + count
      if place != reached then l.half indent (place + count) reached rest
      else if l.expandsTabs then
        let stop := min stop l.width
        also (List.replicate (stop - reached) ' ') (l.half indent (place + count) (max reached stop) rest)
      else if stop < l.width then also ['\t'] (l.half indent (place + count) stop rest)
      else l.half indent (place + count) reached rest
    else if c == '\r' then also ('\r' :: l.gap (indent + 1) 0 indent) (l.half indent 0 0 rest)
    else if c == '\x08' then
      let before := place - 1
      if place == 0 || l.width ≤ before then l.half indent before reached rest
      else if reached ≤ before then also (List.replicate (before - reached) ' ') (l.half indent before before rest)
      else also ['\x08'] (l.half indent before before rest)
    else if isPrintableByte c then
      if place < l.width then also [c] (l.half indent (place + 1) (place + 1) rest)
      else l.half indent (place + 1) reached rest
    else if place ≤ l.width then also [c] (l.half indent place place rest)
    else l.half indent place reached rest

/-- A line of both columns, with the mark between them. -/
def row (l : ColumnLayout) (left : Option Line) (mark : Char) (right : Option Line) : Line :=
  let isEnded (line : Option Line) : Bool := line.any (·.getLast? == some '\n')
  let (text, place) := (left.map (l.half 0 0 0)).getD ([], 0)
  let mark := if mark == '|' && isEnded left != isEnded right then if isEnded left then '/' else '\\' else mark
  let middle := (l.width + l.second - 1) / 2
  let (sign, place) := if mark == ' ' then ([], place)
    else (l.gap (middle + 1) place middle ++ [mark], max place middle + 1)
  let other := match right with
    | some line =>
      if line.head? == some '\n' then []
      else l.gap (l.second + 1) place l.second ++ (l.half l.second 0 0 line).1
    | none => []
  text ++ sign ++ other ++ (if isEnded left || isEnded right then ['\n'] else [])

end ColumnLayout

namespace DiffStyle

/-- Lines that are in both files; if there are more of one file, they stand alone. -/
def commonRows (s : DiffStyle) (x : Sides) (e : Extents) : Line :=
  let l := ColumnLayout.ofStyle s
  let (lefts, rights) := (x.gone e, x.new e)
  if s.hidesCommonLines then []
  else if s.onlyLeftColumn then lefts.flatMap fun line => l.row (some line) '(' none
  else
    (lefts.zip rights).flatMap (fun (a, b) => l.row (some a) ' ' (some b)) ++
      (rights.drop lefts.length).flatMap (fun line => l.row none ')' (some line)) ++
      (lefts.drop rights.length).flatMap fun line => l.row (some line) '(' none

/-- A difference side by side. -/
def rowsHunk (s : DiffStyle) (x : Sides) (e : Extents) : Line :=
  let l := ColumnLayout.ofStyle s
  let (lefts, rights) := (x.gone e, x.new e)
  (lefts.zip rights).flatMap (fun (a, b) => l.row (some a) '|' (some b)) ++
    (rights.drop lefts.length).flatMap (fun line => l.row none '>' (some line)) ++
    (lefts.drop rights.length).flatMap fun line => l.row (some line) '<' none

/-- Two files side by side from places on, with the differences that count. -/
def rowsFrom (s : DiffStyle) (x : Sides) (first second : Nat) : List Hunk → Line
  | [] => s.commonRows x ⟨first, x.first.size, second, x.second.size⟩
  | h :: rest =>
    let e := extentsOf [h]
    s.commonRows x ⟨first, e.first, second, e.second⟩ ++ s.rowsHunk x e ++ rowsFrom s x e.firstStop e.secondStop rest

end DiffStyle

end Rebuild.Tool
