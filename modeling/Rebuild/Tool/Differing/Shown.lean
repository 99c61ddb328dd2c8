import Rebuild.Tool.Differing.Hunks
import Rebuild.Tool.Moment.Format

/-!
# Differences as they are written

Differences are written by themselves, in groups with lines around them, or as commands that make one file of the other.
Stretches of lines are told by the numbers of their first and last lines, counted from one.
-/

namespace Rebuild.Tool

open Text

namespace DiffStyle

/-! ## Lines -/

/-- A line with spaces up to the next stop in the place of each tab. After a return the mark is written again. -/
def expanded (size : Nat) (mark : Line) (column : Nat) : Line → Line
  | [] => []
  | c :: rest =>
    if c == '\t' then
      let count := size - column % size
      List.replicate count ' ' ++ expanded size mark (column + count) rest
    else if c == '\r' then
      c :: ((if rest.isEmpty || rest.head? == some '\n' then [] else mark) ++ expanded size mark 0 rest)
    else if c == '\x08' then
      if column == 0 then expanded size mark 0 rest else c :: expanded size mark (column - 1) rest
    else c :: expanded size mark (if isPrintableByte c then column + 1 else column) rest

/-- The text of a line as it is written. -/
def body (s : DiffStyle) (mark line : Line) : Line :=
  if s.expandsTabs then expanded s.tabSize mark 0 line else line

/-- What follows a line that has no end. -/
def endNote (line : Line) : Line :=
  if line.getLast? == some '\n' then [] else byteChars "\n\\ No newline at end of file\n"

/-- A line after a mark and a blank. -/
def marked (s : DiffStyle) (mark : Char) (line : Line) : Line :=
  if s.endsEmptyLines && line.head? == some '\n' then
    (if mark == ' ' then [] else [mark]) ++ s.body [mark] line
  else
    let start := [mark, if s.startsWithTab then '\t' else ' ']
    start ++ s.body start line ++ endNote line

/-- A line after a mark, of which there is none for lines that are in both files. -/
def joinedTo (s : DiffStyle) (mark : Option Char) (line : Line) : Line :=
  let isBare := s.endsEmptyLines && line.head? == some '\n'
  let start := match mark with
    | some mark => mark :: (if s.startsWithTab && !isBare then ['\t'] else [])
    | none => if isBare then [] else [if s.startsWithTab then '\t' else ' ']
  start ++ s.body [] line ++ endNote line

/-- Lines as commands have them, without marks. -/
def bare (s : DiffStyle) (lines : List Line) : Line :=
  lines.flatMap (s.body [])

/-! ## Differences by themselves -/

/-- The numbers of the lines of a stretch with a separator between them, the last alone if there is at most one line. -/
def numbers (separator : String) (start stop : Nat) : String :=
  if start + 1 < stop then toString (start + 1) ++ separator ++ toString stop else toString stop

/-- The letter of a command. -/
def letter : HunkKind → String
  | .gone => "d"
  | .new => "a"
  | .changed => "c"

/-- A difference, told by itself. -/
def plainHunk (s : DiffStyle) (x : Sides) (e : Extents) (kind : HunkKind) : Line :=
  byteChars (numbers "," e.first e.firstStop ++ letter kind ++ numbers "," e.second e.secondStop ++ "\n") ++
    (x.gone e).flatMap (s.marked '<') ++ (if kind == .changed then byteChars "---\n" else []) ++
    (x.new e).flatMap (s.marked '>')

/-- Lines that an editor is to insert. A dot alone would end them, so it is written twice and mended. -/
def inserted (s : DiffStyle) (isOpen : Bool) : List Line → Line
  | [] => if isOpen then byteChars ".\n" else []
  | line :: rest =>
    (if isOpen then [] else byteChars "a\n") ++
      (if line == ['.', '\n'] then byteChars "..\n.\ns/.//\n" ++ inserted s false rest
       else s.body [] line ++ inserted s true rest)

/-- A difference as a command of an editor. -/
def scriptHunk (s : DiffStyle) (x : Sides) (e : Extents) (kind : HunkKind) : Line :=
  byteChars (numbers "," e.first e.firstStop ++ letter kind ++ "\n") ++
    (if kind.hasNew then s.inserted true (x.new e) else [])

/-- A difference as a command with the letter before the numbers. -/
def forwardHunk (s : DiffStyle) (x : Sides) (e : Extents) (kind : HunkKind) : Line :=
  byteChars (letter kind ++ numbers " " e.first e.firstStop ++ "\n") ++
    (if kind.hasNew then s.bare (x.new e) ++ byteChars ".\n" else [])

/-- A difference as commands that tell how many lines go and come. -/
def countedHunk (s : DiffStyle) (x : Sides) (e : Extents) (kind : HunkKind) : Line :=
  (if kind.hasGone then byteChars s!"d{e.first + 1} {e.firstStop - e.first}\n" else []) ++
    (if kind.hasNew then byteChars s!"a{e.firstStop} {e.secondStop - e.second}\n" ++ s.bare (x.new e) else [])

/-! ## Differences in groups -/

/-- The stretches that a group of differences covers with the lines around it. -/
def widened (s : DiffStyle) (x : Sides) (e : Extents) : Extents :=
  ⟨e.first - s.context, min x.first.size (e.firstStop + s.context),
    e.second - s.context, min x.second.size (e.secondStop + s.context)⟩

/-- The last line before a place that a heading is, up to forty characters of it, after a blank. -/
def headingBefore (s : DiffStyle) (x : Sides) (place : Nat) : Line :=
  if s.headPatterns.isEmpty then []
  else
    match (x.first.extract 0 place).toList.reverse.find? (finds s.headPatterns) with
    | none => []
    | some line =>
      let text := ((line.dropWhile isSpaceByte).takeWhile (· != '\n')).take 40
      ' ' :: (text.reverse.dropWhile isSpaceByte).reverse

/-- The numbers of the lines of a stretch in a group. -/
def groupNumbers (start stop : Nat) : String :=
  if start + 1 < stop then s!"{start + 1},{stop}" else toString stop

/-- The marks of the lines of a stretch from a place on: the mark for those of differences, and a blank for others. -/
def contextLines (s : DiffStyle) (mark : Char) (lines : Array Line) (start stop : Nat)
    (covered : List (Nat × Nat × Bool)) : Line :=
  (List.range (stop - start)).flatMap fun i =>
    let place := start + i
    let isIn (c : Nat × Nat × Bool) : Bool := c.1 ≤ place && place < c.1 + c.2.1
    let mark := match covered.find? isIn with
      | some (_, _, isChanged) => if isChanged then '!' else mark
      | none => ' '
    s.marked mark ((lines[place]?).getD [])

/-- A group of differences as a stretch of each file. -/
def contextGroup (s : DiffStyle) (x : Sides) (group : List Hunk) (kind : HunkKind) : Line :=
  let e := s.widened x (extentsOf group)
  let gone := group.map fun h => (h.first, h.firstCount, decide (0 < h.secondCount))
  let new := group.map fun h => (h.second, h.secondCount, decide (0 < h.firstCount))
  byteChars "***************" ++ s.headingBefore x e.first ++
    byteChars s!"\n*** {groupNumbers e.first e.firstStop} ****\n" ++
    (if kind.hasGone then s.contextLines '-' x.first e.first e.firstStop gone else []) ++
    byteChars s!"--- {groupNumbers e.second e.secondStop} ----\n" ++
    (if kind.hasNew then s.contextLines '+' x.second e.second e.secondStop new else [])

/-- The numbers of the lines of a stretch in a group of both files: the first line, and how many there are. -/
def unifiedNumbers (start stop : Nat) : String :=
  if stop ≤ start then s!"{stop},0"
  else if stop == start + 1 then toString stop
  else s!"{start + 1},{stop - start}"

/-- The lines of a group of differences from a place in the first file on, up to another. -/
def unifiedLines (s : DiffStyle) (x : Sides) (stop place : Nat) : List Hunk → Line
  | [] => (x.first.extract place stop).toList.flatMap (s.joinedTo none)
  | h :: rest =>
    (x.first.extract place h.first).toList.flatMap (s.joinedTo none) ++
      (x.gone (extentsOf [h])).flatMap (s.joinedTo (some '-')) ++
      (x.new (extentsOf [h])).flatMap (s.joinedTo (some '+')) ++
      unifiedLines s x stop (h.first + h.firstCount) rest

/-- A group of differences as one stretch of both files. -/
def unifiedGroup (s : DiffStyle) (x : Sides) (group : List Hunk) : Line :=
  let e := s.widened x (extentsOf group)
  byteChars s!"@@ -{unifiedNumbers e.first e.firstStop} +{unifiedNumbers e.second e.secondStop} @@" ++
    s.headingBefore x e.first ++ ['\n'] ++ s.unifiedLines x e.firstStop e.first group

/-- A path as headers show it: in quotes, with escapes, if it has a blank or a byte that has to be escaped. -/
def shownPath (path : String) : String :=
  let escape (c : Char) : String :=
    if c == '"' then "\\\"" else if c == '\\' then "\\\\"
    else if c.toNat < 32 || 128 ≤ c.toNat then byteEscape c
    else c.toString
  let cs := byteChars path
  if cs.any fun c => c == ' ' || 1 < (escape c).length then "\"" ++ String.join (cs.map escape) ++ "\"" else path

/-- The line that names a file before differences in groups. -/
def header (s : DiffStyle) (mark : String) (label : Option String) (side : Side) : String :=
  match label with
  | some label => s!"{mark} {label}\n"
  | none =>
    let format := if s.form == .context then "%a %b %e %H:%M:%S %Y" else "%Y-%m-%d %H:%M:%S.%N %z"
    s!"{mark} {shownPath side.path}\t" ++ Moment.format side.time format ++ "\n"

/-- The lines that name two files before differences, if the form has them. -/
def headers (s : DiffStyle) (a b : Side) : Line :=
  match s.form with
  | .context => byteChars (s.header "***" s.labels[0]? a ++ s.header "---" s.labels[1]? b)
  | .unified => byteChars (s.header "---" s.labels[0]? a ++ s.header "+++" s.labels[1]? b)
  | _ => []

end DiffStyle

end Rebuild.Tool
