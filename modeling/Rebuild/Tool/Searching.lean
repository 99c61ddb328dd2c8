import Rebuild.Tool.Searching.Style

/-!
# Lines that match

`grep` looks for the lines of files that match one of some patterns and prints them, or what it is asked to tell of
them. Lines around them are printed too if that is asked for; groups of lines that do not follow each other have a
separator between them.
-/

namespace Rebuild.Tool

open Text

/-! ## Patterns -/

/-- The expression that matches a text and nothing else. -/
def fixedPattern (text : Line) : Regex :=
  text.foldl (fun r c => if r == .empty then .char c else .sequence r (.char c)) Regex.empty

/-- The expression that texts make: alternatives, each written in the same way. The operators that are idle are told. -/
def patternOf (kind : PatternKind) (texts : List Line) : Except Regex.Fault (Regex × List Char) := do
  let parts ← texts.mapM fun text =>
    match kind with
    | .fixed => .ok ⟨fixedPattern text, 0, []⟩
    | kind => Regex.ofText? ⟨kind == .extended, false, false⟩ text
  let regexes := parts.map Regex.Parsed.regex
  .ok (regexes.drop 1 |>.foldl .either (regexes.headD (.oneOf false [])), parts.flatMap Regex.Parsed.idle)

/-- The wording of an operator that is idle. -/
def idleText (c : Char) : String :=
  "warning: " ++ (if c == '\x7b' then "\x7b...\x7d" else c.toString) ++ " at start of expression"

/-- A line of a file: its bytes, and how many bytes are before it. -/
structure SearchLine where
  offset : Nat
  chars : Line

namespace SearchStyle

/-- The expression for which lines are searched. -/
def regex (s : SearchStyle) (texts : List Line) : ToolM Regex := do
  match patternOf (s.kind?.getD .basic) texts with
  | .error fault => fail s.name fault.text 2
  | .ok (r, idle) => do
    for c in idle do complain s.name (idleText c)
    pure (if s.matchesLines then .sequence .start (.sequence r .stop)
      else if s.matchesWords then .sequence .noWordBefore (.sequence r .noWordAfter) else r)

/-- A line as it is searched. -/
def subjectOf (s : SearchStyle) (line : Line) : Regex.Subject :=
  ⟨line.toArray, s.ignoresCase, false⟩

/-- The stretches of a line that match from a place on, at most so many, without empty ones. -/
def stretches (r : Regex) (subject : Regex.Subject) (limit place : Nat) : List (Nat × Nat) :=
  match limit with
  | 0 => []
  | limit + 1 =>
    match r.find? subject place with
    | none => []
    | some m =>
      if m.first == m.last then stretches r subject limit (m.last + 1)
      else (m.first, m.last) :: stretches r subject limit m.last

/-- Whether a line is selected. -/
def selects (s : SearchStyle) (r : Regex) (line : Line) : Bool :=
  (r.find? (s.subjectOf line) 0).isSome != s.negates

/-! ## What is printed of a line -/

/-- A text in a color, if there are any. -/
def painted (s : SearchStyle) (color : String) (text : Line) : Line :=
  if s.isColored then byteChars s!"\x1b[{color}m\x1b[K" ++ text ++ byteChars "\x1b[m\x1b[K" else text

/-- A mark between the parts of what is printed. -/
def mark (s : SearchStyle) (c : Char) : Line :=
  s.painted "36" [c]

/-- The name of a file and what follows it. -/
def named (s : SearchStyle) (file : String) (c : Char) : Line :=
  s.painted "35" (byteChars file) ++ (if s.endsNames then ['\x00'] else s.mark c)

/-- A file as it is printed: its name, if that is shown, and how wide numbers are. -/
structure Shown where
  file? : Option String
  width : Nat

/-- What stands before a line or a part of it: its file, number and place, as far as they are shown. -/
def front (s : SearchStyle) (f : Shown) (number offset : Nat) (c : Char) (isEmpty : Bool) : Line :=
  let numeral (n : Nat) : Line := s.painted "32" (byteChars (padded f.width (toString n))) ++ s.mark c
  let parts := (f.file?.map (s.named · c)).getD [] ++ (if s.showsNumbers then numeral number else []) ++
    (if s.showsOffsets then numeral offset else [])
  if s.alignsTabs && !parts.isEmpty && !isEmpty then parts ++ ['\t'] else parts

/-- A line in which what matches is in color. -/
def highlighted (s : SearchStyle) (subject : Regex.Subject) (place : Nat) : List (Nat × Nat) → Line
  | [] => subject.stretch place subject.chars.size
  | (first, last) :: rest =>
    subject.stretch place first ++ s.painted "01;31" (subject.stretch first last) ++ highlighted s subject last rest

/-- What is printed of a line, which is selected or stands near one that is. -/
def lineText (s : SearchStyle) (r : Regex) (f : Shown) (isSelected : Bool) (number : Nat) (line : SearchLine) : Line :=
  let isMatching := isSelected != s.negates
  let subject := s.subjectOf line.chars
  let found :=
    if isMatching && (s.onlyMatches || s.isColored) then stretches r subject (line.chars.length + 2) 0 else []
  if s.onlyMatches then
    found.flatMap fun (first, last) =>
      s.front f number (line.offset + first) (if s.negates then '-' else ':') false ++
        s.painted "01;31" (subject.stretch first last) ++ [s.ending]
  else
    let text := if found.isEmpty then line.chars else s.highlighted subject 0 found
    s.front f number line.offset (if isSelected then ':' else '-') line.chars.isEmpty ++ text ++ [s.ending]

/-! ## Lines around others -/

/-- What was printed: all of it, the last first, up to which line of the file if there was one, and whether anything was
printed of any file. -/
structure Printed where
  parts : List Line
  last? : Option Nat
  isUsed : Bool

/-- Prints lines that stand near one that is selected. -/
def printNear (s : SearchStyle) (r : Regex) (f : Shown) (lines : Array SearchLine) (first stop : Nat) (p : Printed) :
    Printed :=
  let texts := (lines.extract first stop).toList.zipIdx.map fun (line, i) => s.lineText r f false (first + i + 1) line
  { p with parts := texts.reverse ++ p.parts }

/-- Prints the lines that follow one that was selected, up to a place. -/
def printAfter (s : SearchStyle) (r : Regex) (f : Shown) (lines : Array SearchLine) (stop : Nat) (p : Printed) :
    Printed :=
  match p.last? with
  | none => p
  | some last =>
    let stop := max last (min (last + s.context.2) stop)
    { s.printNear r f lines last stop p with last? := some stop }

/-- Prints a line that is selected, after those before it. -/
def printSelected (s : SearchStyle) (r : Regex) (f : Shown) (lines : Array SearchLine) (p : Printed) (i : Nat) :
    Printed :=
  let p := s.printAfter r f lines i p
  let first := max (p.last?.getD 0) (i - s.context.1)
  let separator := match s.separator? with
    | some text => if s.hasContext && p.isUsed && p.last? != some first
      then [s.painted "36" (byteChars text) ++ ['\n']] else []
    | none => []
  let p := s.printNear r f lines first i { p with parts := separator ++ p.parts }
  let text := (lines[i]?.map (s.lineText r f true (i + 1))).getD []
  ⟨text :: p.parts, some (i + 1), true⟩

/-! ## Files -/

/-- The lines of bytes, each with its place. In what is no text nulls end lines, too. -/
def linesIn (s : SearchStyle) (isBinary : Bool) (bytes : ByteArray) : Array SearchLine :=
  let cs := charsOfBytes bytes
  let cs := if isBinary then cs.map fun c => if c == '\x00' then '\n' else c else cs
  let pieces := cs.splitOnP (· == s.ending)
  let pieces := if pieces.getLast? == some [] then pieces.dropLast else pieces
  (pieces.foldl (fun (found, offset) piece =>
    (found.push ⟨offset, piece⟩, offset + piece.length + 1)) ((#[] : Array SearchLine), 0)).1

/-- The places of the lines that are selected, at most so many, from a place on. -/
def selected (s : SearchStyle) (r : Regex) (limit : Nat) (place : Nat) : List SearchLine → List Nat
  | [] => []
  | line :: rest =>
    match limit with
    | 0 => []
    | limit + 1 =>
      if s.selects r line.chars then place :: selected s r limit (place + 1) rest
      else selected s r (limit + 1) (place + 1) rest

/-- How a name is covered by rules: the last one that fits counts, and where none does, names are left out if the first
rule says which are looked at. -/
def isLeftOut (rules : List NameRule) (isWhole : Bool) (name : String) : Bool :=
  let parts : List String := if isWhole then [name] else
    let cs := name.toList
    (cs.zipIdx.filterMap fun (c, i) =>
      if i == 0 then some name else if c == '/' then some (String.ofList (cs.drop (i + 1))) else none)
  let fitsRule (rule : NameRule) : Bool := parts.any (fits false rule.pattern)
  match rules.reverse.find? fitsRule, rules.head? with
  | some rule, _ => !rule.isIncluded
  | none, some first => first.isIncluded
  | none, none => false

/-- A file that is searched: its path, the name by which it is told, and whether it was named by an operand. -/
structure Target where
  path : String
  shown : String
  isOperand : Bool
  isInDirectory : Bool

/-- Whether a path leads to a directory, and whether to something that is no file. -/
def kindOf (d : Disk) (path : String) : Bool × Bool :=
  match d.get path with
  | .ok n => (n.item matches .directory, n.item matches .device _)
  | .error _ => (false, false)

/-- The files at and below a path, down to a depth, as far as names are not left out. -/
def filesBelow (s : SearchStyle) (d : Disk) (depth : Nat) (isOperand : Bool) (path : String) : List Target :=
  match depth with
  | 0 => []
  | depth + 1 =>
    let target : Target := ⟨path, path, isOperand, !isOperand⟩
    let (isDirectory, isDevice) := kindOf d path
    let isLink := (d.getName path).toOption.any fun n => n.item matches .link _
    let last := (path.splitOn "/").getLastD path
    if !isOperand && isLink && !s.followsLinks then []
    else if !isOperand && isLeftOut (if isDirectory then s.directoryRules else s.fileRules) true last then []
    else if isDirectory then
      let names := ((d.find path).toOption.map d.names).getD []
      names.flatMap fun name =>
        s.filesBelow d depth false (if path.endsWith "/" then path ++ name else path ++ "/" ++ name)
    else if isDevice && !isOperand then []
    else [target]

/-- The files that an operand leads to. -/
def targetsOf (s : SearchStyle) (d : Disk) (operand : String) : List Target :=
  let (isDirectory, isDevice) := kindOf d operand
  if operand == "-" then [⟨operand, s.label, true, false⟩]
  else if d.isThere operand && isLeftOut (if isDirectory then s.directoryRules else s.fileRules) false operand then []
  else if s.directories == .recurse && isDirectory then s.filesBelow d 1000 true operand
  else if (s.directories == .skip && isDirectory) || (s.skipsDevices && isDevice) then []
  else [⟨operand, operand, true, false⟩]

/-- All files that are searched, given the operands. -/
def targets (s : SearchStyle) (d : Disk) (operands : List String) : List Target :=
  match operands with
  | [] =>
    if s.directories == .recurse then
      (s.filesBelow d 1000 true ".").map fun target => { target with shown := (target.path.drop 2).toString }
    else s.targetsOf d "-"
  | operands => operands.flatMap (s.targetsOf d)

/-- Whether names are shown, if no option says so: if there is more than one operand, or the file was found in a
directory. -/
def showsName (s : SearchStyle) (operands : List String) (target : Target) : Bool :=
  s.showsNames?.getD (1 < operands.length || target.isInDirectory)

/-- How wide numbers are so that tabs line up: as wide as that of the last line could be. -/
def numberWidth (s : SearchStyle) (size? : Option Nat) : Nat :=
  if s.alignsTabs then
    match size? with
    | some size => (toString (if s.showsNumbers then size + 1 else size)).length
    | none => (toString greatestInteger).length
  else 0

/-- What has come of a search so far. -/
structure Outcome where
  isFound : Bool
  isBad : Bool
  isUsed : Bool

/-- Where the input or the output leads, and how far it was read. -/
def channelOf? (stream : Nat) : ToolM (Option (Channel × Nat)) := do
  let p ← getThe Process
  pure ((p.file? stream).map fun (_, file) => (file.channel, file.position))

/-- The number of the node to which the input or the output leads, if it is one of the disk, and how far it was read. -/
def nodeOf? (stream : Nat) : ToolM (Option (Nat × Nat)) := do
  match ← channelOf? stream with
  | some (.node number, place) => pure (some (number, place))
  | _ => pure none

/-- Reads a file. What cannot be read as a directory counts as empty. -/
def readTarget (s : SearchStyle) (target : Target) : ToolM (Option (ByteArray × Bool)) := do
  match ← readOperand target.path with
  | .ok bytes => pure (some (bytes, false))
  | .error fault =>
    unless s.isSilent do complain s.name s!"{target.shown}: {fault.text}"
    pure (if fault == .isDirectory then some (.empty, true) else none)

/-- Sets the place from which the input is read on. -/
def resume (stream place : Nat) : ToolM Unit :=
  modify fun p =>
    match p.file? stream with
    | some (number, file) => { p with files := p.files.setIfInBounds number { file with position := place } }
    | none => p

/-- Searches a file and prints what is asked for. -/
def search (s : SearchStyle) (r : Regex) (isNamed : Bool) (target : Target) (o : Outcome) : ToolM Outcome := do
  let input? ← nodeOf? 0
  let node? ← if target.path == "-" then pure input? else do
    let d ← disk
    pure (((d.find target.path).toOption.bind d.number?).map (·, 0))
  let isMute := (← channelOf? 1).any fun (channel, _) => channel == .null
  let isListing := s.list != .nothing || s.isQuiet || isMute
  let output? ← nodeOf? 1
  if !s.counts && !isListing && s.most? != some 1 && node?.isSome && node?.map Prod.fst == output?.map Prod.fst &&
      target.path != "-" then
    unless s.isSilent do complain s.name s!"{target.shown}: input file is also the output"
    return { o with isBad := true }
  match ← s.readTarget target with
  | none => pure { o with isBad := true }
  | some (bytes, isDirectory) =>
    let o := if isDirectory then { o with isBad := true } else o
    let isBinary := s.ending == '\n' && s.binary != .asText && bytes.data.contains 0
    let lines := s.linesIn isBinary bytes
    let stopsAtFirst := isListing || (isBinary && !s.counts)
    let limit := min (s.most?.getD lines.size) (if stopsAtFirst then 1 else lines.size)
    let picked := if isBinary && s.binary == .unmatched then [] else s.selected r limit 0 lines.toList
    let isFound := !picked.isEmpty
    if picked.length == limit && picked.getLast?.any (· + 1 < lines.size) then haveEnough
    let count := picked.length
    if target.path == "-" && s.most? == some count && s.list == .nothing && !s.isQuiet then
      let place := match picked.getLast?.bind fun i => lines[i]? with
        | some line => line.offset + line.chars.length + 1
        | none => 0
      match input? with
      | some (_, start) => resume 0 (start + min place bytes.size)
      | none => pure ()
    let file? := if isNamed then some target.shown else none
    let o := { o with isFound := o.isFound || isFound }
    let used := { o with isUsed := o.isUsed || isFound }
    if s.isQuiet then pure o
    else if s.list != .nothing then
      if isFound == (s.list == .matching) then
        put s.name (bytesOfChars (s.painted "35" (byteChars target.shown) ++ [if s.endsNames then '\x00' else '\n']))
      pure o
    else if isMute then pure used
    else if s.counts then
      put s.name (bytesOfChars ((file?.map (s.named · ':')).getD [] ++ byteChars s!"{count}\n"))
      pure o
    else if isBinary then
      if isFound then complain s.name s!"{target.shown}: binary file matches"
      pure used
    else
      let shown : Shown :=
        ⟨file?, s.numberWidth (if target.path == "-" && input?.isNone then none else some bytes.size)⟩
      let printed := picked.foldl (s.printSelected r shown lines) ⟨[], none, o.isUsed⟩
      let printed := s.printAfter r shown lines lines.size printed
      put s.name (bytesOfChars printed.parts.reverse.flatten)
      pure { o with isUsed := printed.isUsed }

/-- Searches files, up to the first line that is selected if nothing is printed. -/
def searchAll (s : SearchStyle) (r : Regex) (operands : List String) (o : Outcome) : List Target → ToolM Outcome
  | [] => pure o
  | target :: rest => do
    let o ← s.search r (s.showsName operands target) target o
    if s.isQuiet && o.isFound then pure { o with isBad := false } else searchAll s r operands o rest

end SearchStyle

/-- Prints the lines of files that match. A way in which patterns are written may be given before the options. -/
def grepWith (kind? : Option PatternKind) : Tool := fun name args => do
  let name := if kind?.isSome then "grep" else name
  let (found, fault?) := sortedWords searchRules false args
  let (s, _) ← (found.filterMap SortedWord.option?).foldlM (fun state given =>
    if given.1 == "version" then quit 0 else SearchStyle.take state given)
    (({ name, kind? } : SearchStyle), (none : Option Nat))
  match fault? with
  | some fault => SearchStyle.refuse (some fault.text) name
  | none => pure ()
  if found.any fun word => word.option?.any (·.1 == "help") then quit 0
  let operands := found.filterMap SortedWord.operand?
  let (texts, operands) ← match s.patterns?, operands with
    | some texts, operands => pure (texts, operands)
    | none, text :: operands => pure (SearchStyle.patternsIn (byteChars text), operands)
    | none, [] => SearchStyle.refuse none name
  if s.most? == some 0 && s.list != .unmatching then quit 1
  let isVain := s.negates && !s.matchesWords && !s.matchesLines && !texts.isEmpty && texts.all List.isEmpty
  if (isVain || (texts.isEmpty && !s.negates)) && s.list != .unmatching then quit 1
  let r ← s.regex texts
  let o ← s.searchAll r operands ⟨false, false, false⟩ (s.targets (← disk) operands)
  pure (if o.isBad then 2 else if o.isFound then 0 else 1)

end Rebuild.Tool
