import Rebuild.Shell.Pattern
import Rebuild.Tool.Listing.Layout
import Rebuild.Tool.Moment.Format
import Rebuild.Tool.Node
import Rebuild.Tool.Order

/-!
# What is in directories

`ls` lists names, with what they stand for if that is asked for: first the operands that are no directories, then what
is in each directory.
-/

namespace Rebuild.Tool

open Text

/-- A name that is listed: how it is written, where it is, and what it stands for. -/
structure Entry where
  name : String
  place : Place
  node : DiskNode

namespace ListStyle

/-! ## Order -/

/-- Whether one name is listed before another. -/
def isBefore (s : ListStyle) (a b : Entry) : Bool :=
  let byName := compareBytes (byteChars a.name) (byteChars b.name)
  let ending (name : String) : Line :=
    let cs := byteChars name
    if cs.contains '.' then '.' :: (cs.reverse.takeWhile (· != '.')).reverse else []
  let main : Ordering := match s.order with
    | .name | .none => .eq
    | .time => compare b.node.modified a.node.modified
    | .size => compare (sizeOf b.node) (sizeOf a.node)
    | .ending => compareBytes (ending a.name) (ending b.name)
    | .version => compareVersions (byteChars a.name) (byteChars b.name)
    | .width => compare (placesOf (s.written a.name)) (placesOf (s.written b.name))
  let found := main.then byName
  if s.isReversed then found != .lt else found != .gt

/-- Names in the order in which they are listed. -/
def sorted (s : ListStyle) (d : Disk) (entries : List Entry) : List Entry :=
  let entries := if s.order == .none then entries else entries.mergeSort s.isBefore
  let isDirectory (e : Entry) : Bool := (d.get (Disk.pathOf e.place)).toOption.any isDirectoryNode
  if s.directoriesFirst && s.order != .none then entries.filter isDirectory ++ entries.filter fun e => !isDirectory e
  else entries

/-! ## What is told of a name -/

/-- The mark after a name. -/
def mark (s : ListStyle) (n : DiskNode) : String :=
  match n.item with
  | .directory => if s.marks == .none then "" else "/"
  | .link _ => if s.marks == .kind || s.marks == .all then "@" else ""
  | .file _ | .program _ => if s.marks == .all && n.isExecutable then "*" else ""
  | .device _ => ""

/-- The time of a node as it is listed: the time of day if it is of the last half year, and the year if not. -/
def timeText (s : ListStyle) (now time : Time) : String :=
  let half : Nat := 15778476 * Moment.nano
  Moment.format time (if now < time + half && time ≤ now then s.times.2 else s.times.1)

/-- A size in a unit, rounded up. -/
def sizeText (unit : SizeUnit) (size : Nat) : String :=
  match unit with
  | .fixed one mark => toString ((size + one - 1) / one) ++ mark
  | .scaled base => shortSize base size

/-- The columns before the name of an entry: each a text, and whether it is set to the left. -/
def columns (s : ListStyle) (d : Disk) (e : Entry) : List (String × Bool) :=
  let owner := if s.isNumeric then "0" else "root"
  let context := if s.showsContext then [("?", true)] else []
  let number := if s.showsNumber then [(toString ((d.number? e.place).getD 0), false)] else []
  let blocks := if s.showsBlocks then [(sizeText s.blocks (1024 * blocksOf e.node), false)] else []
  let long := if s.isLong then
      [(modeText e.node, true), (toString (linkCount d e.place e.node), false)] ++
        (if s.showsOwner then [(owner, true)] else []) ++ (if s.showsGroup then [(owner, true)] else []) ++
        (if s.showsAuthor then [(owner, true)] else []) ++ context ++
        [(sizeText s.sizes (sizeOf e.node), false), (s.timeText d.clock e.node.modified, true)]
    else context
  number ++ blocks ++ long

/-- The name of an entry with its mark, and what it holds if it is a symbolic link that is listed at length. -/
def nameText (s : ListStyle) (d : Disk) (e : Entry) : String :=
  match e.node.item, s.isLong with
  | .link target, true =>
    let above := Disk.pathOf e.place.dropLast
    let leads := d.get (if Path.isAbsolute target then target else inDirectory above target)
    s.written e.name ++ " -> " ++ s.written target ++ (leads.toOption.map s.mark).getD ""
  | _, _ => s.written e.name ++ s.mark e.node

/-- Whether names that are not quoted have a blank before them: if others are, where names stand below each other. -/
def isPadded (s : ListStyle) (width : Nat) (names : List String) : Bool :=
  s.quotesSome && (s.isLong || ((s.layout == .columns || s.layout == .rows) && width != 0)) && names.any s.isQuoted

/-- What is told of each of some entries; columns are as wide as for all entries of a larger group. -/
def texts (s : ListStyle) (d : Disk) (isPadded : Bool) (group entries : List Entry) : List String :=
  let rows := group.map (s.columns d)
  let width (i : Nat) : Nat :=
    if s.layout == .commas then 0 else rows.foldl (fun w row => max w ((row[i]?.map (·.1.length)).getD 0)) 0
  entries.map fun e =>
    let cells := (s.columns d e).zipIdx.map fun ((text, isLeft), i) =>
      let fill := String.ofList (List.replicate (width i - text.length) ' ')
      if isLeft then text ++ fill else fill ++ text
    " ".intercalate (cells ++ [(if isPadded && !s.isQuoted e.name then " " else "") ++ s.nameText d e])

/-- How many places a line has if nothing is said of it, or a text that says it. -/
def lineWidth (s : ListStyle) (given? : Option String) : Nat :=
  s.width?.getD (((given?.bind fun text => (amountOf "" 0 greatestInteger text).toOption).map Int.toNat).getD 80)

/-- The listing of entries; columns are as wide as for all entries of a larger group. -/
def text (s : ListStyle) (width : Nat) (d : Disk) (isPadded : Bool) (group entries : List Entry) : String :=
  let texts := s.texts d isPadded group entries
  if texts.isEmpty then ""
  else
    match s.layout with
    | .lines | .long => String.join (texts.map (· ++ s.ending.toString))
    | .columns | .rows =>
      if width == 0 then "  ".intercalate texts ++ s.ending.toString else s.columnText width texts
    | .commas => s.commaText width 0 true texts

/-! ## Directories -/

/-- Whether a name fits one of some patterns; a dot at its beginning has to be given. -/
def fitsSome (patterns : List String) (name : String) : Bool :=
  patterns.any fun pattern =>
    (!name.startsWith "." || pattern.startsWith ".") &&
      Shell.matchesPattern (pattern.toList.map (·, false)) name.toList

/-- What is in a directory. -/
def entriesIn (s : ListStyle) (d : Disk) (place : Place) : List Entry :=
  let isShown (name : String) : Bool :=
    (s.dots != .hidden || (!name.startsWith "." && !fitsSome s.hidden name)) && !fitsSome s.ignored name
  let inside := ((d.names place).filter isShown).filterMap fun name =>
    let here := place ++ [name]
    let node := if s.follows == .always then (d.get (Disk.pathOf here)).toOption.or (d.at? here) else d.at? here
    node.map fun node => ⟨name, here, node⟩
  let outer : List Entry := if s.dots == .all then
      [(".", place), ("..", place.dropLast)].filterMap fun (name, here) => (d.at? here).map fun n => ⟨name, here, n⟩
    else []
  s.sorted d (outer ++ inside)

/-- The listing of a directory, and of those below it if that is asked for, each with its name above it. -/
def directoryText (s : ListStyle) (width : Nat) (d : Disk) (depth : Nat) (isNamed : Bool) (path : String)
    (place : Place) : String :=
  match depth with
  | 0 => ""
  | depth + 1 =>
    let entries := s.entriesIn d place
    let title := if isNamed || s.isRecursive then s.written path ++ ":\n" else ""
    let blocks := entries.foldl (fun n e => n + blocksOf e.node) 0
    let total := if s.isLong || s.showsBlocks then "total " ++ sizeText s.blocks (1024 * blocks) ++ s.ending.toString
      else ""
    let below := if s.isRecursive then
        (entries.filter fun e => isDirectoryNode e.node && e.name != "." && e.name != "..").map fun e =>
          "\n" ++ directoryText s width d depth true (inDirectory path e.name) e.place
      else []
    title ++ total ++ s.text width d (s.isPadded width (entries.map Entry.name)) entries entries ++ String.join below

end ListStyle

/-- Lists what operands name. -/
def ls : Tool := fun name args => do
  let (style, operands) ← foldOptions name listRules false 2 args ({} : ListStyle) (ListStyle.take name)
  let given? := (← get).environment.lookup "COLUMNS"
  match given?.filter fun text => !text.isEmpty && (amountOf "" 0 greatestInteger text).toOption.isNone with
  | some text =>
    if style.width?.isNone then
      complain name s!"ignoring invalid width in environment variable COLUMNS: {plainlyQuoted text}"
  | none => pure ()
  let width := style.lineWidth given?
  let d ← disk
  let paths := if operands.isEmpty then ["."] else operands
  let followsDirectories := style.follows == .usual &&
    !(style.isLong || style.marks == .all || !style.listsDirectories)
  let mut code := 0
  let mut found : List Entry := []
  for path in paths do
    let follows := style.follows != .usual || (followsDirectories && d.isDirectory path)
    match d.locate follows path with
    | .error fault =>
      complain name s!"cannot access {shellQuoted path}: {fault.text}"
      code := 2
    | .ok place =>
      match d.at? place with
      | none =>
        complain name s!"cannot access {shellQuoted path}: {SystemFault.text .noEntry}"
        code := 2
      | some node => found := found ++ [⟨path, place, node⟩]
  let entries := style.sorted d found
  let isListed (e : Entry) : Bool := style.listsDirectories && isDirectoryNode e.node
  let files := entries.filter fun e => !isListed e
  say name (style.text width d (style.isPadded width paths) entries files)
  let mut isFirst := files.isEmpty
  for entry in entries.filter isListed do
    unless isFirst do say name "\n"
    isFirst := false
    say name (style.directoryText width d maxDepth (1 < paths.length) entry.name entry.place)
  pure code

end Rebuild.Tool
