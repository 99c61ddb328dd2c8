import Rebuild.Tool.Editing.Script

/-!
# Editing lines

Line after line is taken into the pattern space, the commands of the script that select it are done, and what is then in
the pattern space is printed. `editLines` is the whole run: it tells what is written to the output and to other files.
-/

namespace Rebuild.Tool.Editing

open Text

/-- What is next in the input. In the place of lines there is a file that is not there, or one for which editing
stops. -/
inductive InputKind where
  | line
  | missing
  | unreadable
deriving DecidableEq, Repr

/-- A line of the input: its bytes, whether it is ended, and the file that it is from. -/
structure InputLine where
  chars : Line
  isEnded : Bool
  file : Nat
  kind : InputKind

/-- What has been written to a file, the last first, and whether the end of its last line is still to come. -/
structure Outlet where
  written : List Line
  owesEnd : Bool

/-- How lines are edited. -/
structure EditStyle where
  script : Script
  isQuiet : Bool
  /-- Whether each file is edited for itself, and whether it has an output of its own. -/
  isSeparate : Bool
  isInPlace : Bool
  /-- What ends a line. -/
  ending : Char
  /-- How long the lines of a listing are. -/
  width : Nat
  /-- The names of the files. -/
  names : Array String
  /-- What is in a file that a command reads. -/
  content? : String → Option Line

/-- How far editing is. -/
structure Editor where
  pattern : Line
  /-- Whether the line in the pattern space is ended. -/
  isEnded : Bool
  hold : Line
  /-- Whether what is held back is ended. -/
  isHoldEnded : Bool
  number : Nat
  file : Nat
  input : List InputLine
  /-- The files that were not there, the last first. -/
  missed : List Nat
  replaced : Bool
  /-- What is to be written after the line. -/
  appended : List Line
  /-- The commands whose ranges have begun, with the numbers of the lines at which they end if those are known. -/
  active : List (Nat × Option Nat)
  /-- The commands whose ranges have ended. -/
  closed : List Nat
  lastMatcher : Option Matcher
  /-- The output, by files if these have outputs of their own. -/
  outputs : List (Nat × Outlet)
  /-- The files that commands write. -/
  outlets : List (String × Outlet)
  /-- What is left of the files from which lines are read. -/
  sources : List (String × Line)

/-- Why editing ends before the end of the script. -/
inductive Stop where
  /-- The next line is taken, if there is one. -/
  | cycle
  /-- The script is done again without taking a line. -/
  | again
  | quit (code : Nat)
  | noPattern

/-- What is done to an editor. -/
abbrev EditM := ExceptT Stop (StateM Editor)

/-! ## Output -/

namespace Outlet

/-- A file to which nothing has been written. -/
def empty : Outlet :=
  ⟨[], false⟩

/-- Writes bytes, after the end of the last line if that is still to come. -/
def put (o : Outlet) (ending : Char) (cs : Line) : Outlet :=
  ⟨cs :: (if o.owesEnd then [ending] :: o.written else o.written), false⟩

/-- Writes a line, which is ended or not. -/
def putLine (o : Outlet) (ending : Char) (cs : Line) (isEnded : Bool) : Outlet :=
  if isEnded then o.put ending (cs ++ [ending]) else { o.put ending cs with owesEnd := true }

/-- All that was written. -/
def text (o : Outlet) : Line :=
  o.written.reverse.flatten

end Outlet

namespace Editor

/-- The number under which the output is kept. -/
def outputKey (style : EditStyle) (e : Editor) : Nat :=
  if style.isInPlace then e.file else 0

/-- Changes the output. -/
def onOutput (style : EditStyle) (f : Outlet → Outlet) (e : Editor) : Editor :=
  let key := e.outputKey style
  let old := (e.outputs.lookup key).getD .empty
  { e with outputs := (key, f old) :: e.outputs.filter (·.1 != key) }

/-- Changes a file that a command writes; the output may be one. -/
def onFile (style : EditStyle) (path : String) (f : Outlet → Outlet) (e : Editor) : Editor :=
  if path == "/dev/stdout" then e.onOutput style f
  else
    let old := (e.outlets.lookup path).getD .empty
    { e with outlets := (path, f old) :: e.outlets.filter (·.1 != path) }

/-- Writes what was to come after the line. -/
def flush (style : EditStyle) (e : Editor) : Editor :=
  let e := e.appended.reverse.foldl (fun e cs => e.onOutput style (·.put style.ending cs)) e
  { e with appended := [] }

/-- Whether the line is the last. -/
def isLast (style : EditStyle) (e : Editor) : Bool :=
  match e.input with
  | [] => true
  | line :: _ => style.isSeparate && line.file != e.file

/-- Leaves out what comes before something else in the input, and notes which files were not there. -/
def leaveOut (isLeftOut : InputKind → Bool) (e : Editor) : Editor :=
  let lines := e.input.takeWhile fun line => isLeftOut line.kind
  let missed := (lines.filter (·.kind == .missing)).map InputLine.file
  { e with input := e.input.drop lines.length, missed := missed.reverse ++ e.missed }

/-- Leaves out what is no line, unless each file is edited for itself. From then on the file is that of the next
line. -/
def lookAhead (style : EditStyle) (e : Editor) : Editor :=
  if style.isSeparate then e
  else
    let e := e.leaveOut (· != .line)
    { e with file := (e.input.head?.map InputLine.file).getD (style.names.size - 1) }

/-- Whether editing stops for what is next. -/
def isStuck (e : Editor) : Bool :=
  e.input.head?.any (·.kind == .unreadable)

/-- Takes the next line, after what is in the pattern space or in its place. -/
def advance (style : EditStyle) (keeps : Bool) (e : Editor) : Option Editor :=
  let e := e.flush style
  match e.input with
  | [] => none
  | line :: input =>
    let isNew := style.isSeparate && line.file != e.file
    some { e with
      input
      pattern := if keeps then e.pattern ++ style.ending :: line.chars else line.chars
      isEnded := line.isEnded
      hold := if isNew then [] else e.hold
      isHoldEnded := isNew || e.isHoldEnded
      number := if isNew then 1 else e.number + 1
      file := line.file
      replaced := false
      active := if isNew then [] else e.active
      closed := if isNew then [] else e.closed
      sources := if isNew then [] else e.sources }

end Editor

/-! ## Selection of lines -/

/-- Prints the pattern space. -/
def printPattern (style : EditStyle) : EditM Unit :=
  modify fun e => e.onOutput style (·.putLine style.ending e.pattern e.isEnded)

/-- The expression that is compared with, and how. -/
def resolved (m : Matcher) : EditM (Regex × Matcher) := do
  let used ← match m.pattern, (← get).lastMatcher with
    | some _, _ => pure m
    | none, some last => pure last
    | none, none => throw .noPattern
  modify fun e => { e with lastMatcher := some used }
  pure (used.pattern.getD .empty, used)

/-- The pattern space as it is searched. -/
def subjectOf (m : Matcher) (chars : Line) : Regex.Subject :=
  ⟨chars.toArray, m.ignoresCase, m.hasLines⟩

/-- Whether the line is the last, once what cannot be read has been left out. -/
def sawEnd (style : EditStyle) : EditM Bool := do
  modify fun e => e.lookAhead style
  pure ((← get).isLast style)

/-- Whether an address is that of the line. -/
def isAt (style : EditStyle) (a : Address) : EditM Bool := do
  let e ← get
  match a with
  | .line number => pure (e.number == number)
  | .every first step => pure (first ≤ e.number && (e.number - first) % step == 0)
  | .last => sawEnd style
  | .matching m => do
    let (r, m) ← resolved m
    pure (r.find? (subjectOf m e.pattern) 0).isSome

/-- The number of the line at which a range ends, if it can be told at its beginning. -/
def endOf (number : Nat) : Bound → Option Nat
  | .address (.line last) => some last
  | .address _ => none
  | .further count => some (number + count)
  | .multiple of => some (if of == 0 then number else (number / of + 1) * of)

/-- Ends the range of a command. -/
def closeRange (place : Nat) : EditM Unit :=
  modify fun e => { e with active := e.active.filter (·.1 != place), closed := place :: e.closed.filter (· != place) }

/-- Whether the range of a command begins at the line. -/
def begins (style : EditStyle) (place : Nat) (first : Address) : EditM Bool := do
  let e ← get
  match first with
  | .line number => pure (number ≤ e.number && !e.closed.contains place)
  | first => isAt style first

/-- Whether the line is in the range of a command. -/
def isInRange (style : EditStyle) (place : Nat) (first : Address) (last : Bound) : EditM Bool := do
  let e ← get
  let stops : EditM Bool := match last with
    | .address a => isAt style a
    | _ => pure false
  match e.active.lookup place with
  | some (some final) => do
    if final ≤ e.number then closeRange place
    match last with
    | .address _ => pure (e.number ≤ final)
    | _ => pure true
  | some none => do
    if ← stops then closeRange place
    pure true
  | none =>
    if !(← begins style place first) then pure false
    else
      match endOf e.number last with
      | some final =>
        if final ≤ e.number then
          closeRange place
          match first with
          | .line number => pure (e.number ≤ final || e.number == number)
          | _ => pure true
        else
          modify fun e => { e with active := (place, some final) :: e.active }
          pure true
      | none =>
        let isOver ← match first, last with
          | .line 0, _ => stops
          | _, .address .last => stops
          | _, _ => pure false
        if isOver then closeRange place
        else modify fun e => { e with active := (place, none) :: e.active }
        pure true

/-- Whether a command is done for the line. -/
def isSelected (style : EditStyle) (place : Nat) (c : EditCommand) : EditM Bool := do
  let fits ← match c.selection with
    | .all => pure true
    | .one a => isAt style a
    | .range first last => isInRange style place first last
  pure (fits != c.negated)

/-! ## Replacement -/

/-- How letters are written, all of them and the next one. -/
abbrev Writing := CaseChange × CaseChange

/-- Writes characters as letters are to be written. -/
def written (w : Writing) (cs : Line) : Line × Writing :=
  let all (cs : Line) : Line := match w.1 with
    | .upper => cs.map Char.toUpper
    | .lower => cs.map Char.toLower
    | _ => cs
  match cs, w.2 with
  | c :: rest, .upperOnce => (c.toUpper :: all rest, (w.1, .none))
  | c :: rest, .lowerOnce => (c.toLower :: all rest, (w.1, .none))
  | cs, _ => (all cs, w)

/-- What a match is replaced with. -/
def replacementOf (subject : Regex.Subject) (m : Regex.Match) (w : Writing) : List Piece → Line
  | [] => []
  | .chars cs :: rest =>
    let (cs, w) := written w cs
    cs ++ replacementOf subject m w rest
  | .group number :: rest =>
    let cs := match m.group? number with
      | some (first, last) => subject.stretch first last
      | none => []
    let (cs, w) := written w cs
    cs ++ replacementOf subject m w rest
  | .letters change :: rest =>
    let w := match change with
      | .upperOnce | .lowerOnce => (w.1, change)
      | change => (change, .none)
    replacementOf subject m w rest

/-- The text from a place on with its matches replaced, in parts, and whether there was one to replace. The number of
the next match is told, and where the last one ended. -/
def replaceFrom (r : Regex) (s : Substitution) (subject : Regex.Subject) (limit place count : Nat)
    (lastEnd : Option Nat) : List Line × Bool :=
  let rest := subject.stretch place subject.chars.size
  match limit with
  | 0 => ([rest], false)
  | limit + 1 =>
    match r.find? subject place with
    | none => ([rest], false)
    | some m =>
      let before := subject.stretch place m.first
      let isEmpty := m.first == m.last
      let stepped := subject.stretch m.last (m.last + 1)
      if isEmpty && lastEnd == some m.first then
        if subject.chars.size ≤ m.last then ([rest], false)
        else
          let (after, isFound) := replaceFrom r s subject limit (m.last + 1) count none
          (before :: stepped :: after, isFound)
      else if count < s.first then
        let same := subject.stretch m.first m.last
        if isEmpty then
          if subject.chars.size ≤ m.last then ([rest], false)
          else
            let (after, isFound) := replaceFrom r s subject limit (m.last + 1) (count + 1) none
            (before :: stepped :: after, isFound)
        else
          let (after, isFound) := replaceFrom r s subject limit m.last (count + 1) (some m.last)
          (before :: same :: after, isFound)
      else
        let new := replacementOf subject m (.none, .none) s.replacement
        if !s.isGlobal then ([before, new, subject.stretch m.last subject.chars.size], true)
        else if isEmpty then
          if subject.chars.size ≤ m.last then ([before, new], true)
          else (before :: new :: stepped :: (replaceFrom r s subject limit (m.last + 1) (count + 1) none).1, true)
        else (before :: new :: (replaceFrom r s subject limit m.last (count + 1) (some m.last)).1, true)

/-- Replaces matches in the pattern space. -/
def substitute (style : EditStyle) (s : Substitution) : EditM Unit := do
  let (r, m) ← resolved s.matcher
  let pattern := (← get).pattern
  let (parts, isFound) := replaceFrom r s (subjectOf m pattern) (2 * pattern.length + 2) 0 1 none
  if isFound then
    modify fun e => { e with pattern := parts.flatten, replaced := true }
    if s.prints then printPattern style
    match s.target with
    | some path => modify fun e => e.onFile style path (·.putLine style.ending e.pattern e.isEnded)
    | none => pure ()

/-! ## Listing -/

/-- A character as it is listed. -/
def listed (c : Char) : Line :=
  match c with
  | '\\' => ['\\', '\\']
  | '\x07' => ['\\', 'a']
  | '\x08' => ['\\', 'b']
  | '\x0c' => ['\\', 'f']
  | '\n' => ['\\', 'n']
  | '\r' => ['\\', 'r']
  | '\t' => ['\\', 't']
  | '\x0b' => ['\\', 'v']
  | c =>
    let n := c.toNat
    if 32 ≤ n && n < 127 then [c]
    else '\\' :: [n / 64 % 8, n / 8 % 8, n % 8].map Nat.digitChar

/-- Characters as they are listed, in lines of a width. -/
def listing (ending : Char) (width : Nat) (cs : Line) : Line :=
  let step (state : Line × Nat) (c : Char) : Line × Nat :=
    let text := listed c
    if width != 0 && width - 1 < state.2 + text.length then
      (text.reverse ++ ending :: '\\' :: state.1, text.length)
    else (text.reverse ++ state.1, state.2 + text.length)
  (cs.foldl step ([], 0)).1.reverse ++ ['$', ending]

/-! ## Commands -/

/-- Puts text to be written after the line. -/
def appendText (text : Line) : EditM Unit :=
  modify fun e => { e with appended := text :: e.appended }

/-- Writes text in which the last line ends as lines of the input do. -/
def putText (style : EditStyle) (text : Line) : EditM Unit :=
  let text := if text.isEmpty then text else text.dropLast ++ [style.ending]
  modify fun e => e.onOutput style (·.put style.ending text)

/-- Takes the next line. Without one the run ends, after printing the pattern space. -/
def takeNext (style : EditStyle) (keeps : Bool) : EditM Unit := do
  if ← sawEnd style then
    unless style.isQuiet do printPattern style
    throw .cycle
  else
    unless keeps || style.isQuiet do printPattern style
    modify fun e => (e.advance style keeps).getD e

/-- Takes the next line of a file and puts it after the line. -/
def readLineOf (style : EditStyle) (path : String) : EditM Unit := do
  let left := match (← get).sources.lookup path with
    | some left => left
    | none => (style.content? path).getD []
  unless left.isEmpty do
    let line := left.takeWhile (· != style.ending)
    let rest := left.drop (line.length + 1)
    appendText (line ++ (left.drop line.length).take 1)
    modify fun e => { e with sources := (path, rest) :: e.sources.filter (·.1 != path) }

/-- Goes to a label, or to the end of the script. -/
def placeOf (script : Script) (label : Line) : Nat :=
  (script.labels.reverse.lookup label).getD script.commands.size

/-- Does a command that is selected; the place of the command that follows is told. -/
def perform (style : EditStyle) (place : Nat) (c : EditCommand) : EditM Nat := do
  let next := place + 1
  match c.action with
  | .nothing | .block => pure next
  | .jump rule label => do
    let replaced := (← get).replaced
    let goes := match rule with
      | .always => true
      | .ifReplaced => replaced
      | .unlessReplaced => !replaced
    unless rule == .always do modify fun e => { e with replaced := false }
    pure (if goes then placeOf style.script label else next)
  | .append text => do
    appendText text
    pure next
  | .insert text => do
    putText style text
    pure next
  | .change text => do
    unless ((← get).active.lookup place).isSome do putText style text
    throw .cycle
  | .delete => throw .cycle
  | .deleteFirst => do
    let pattern := (← get).pattern
    if !pattern.contains style.ending then throw .cycle
    else
      modify fun e => { e with pattern := (pattern.dropWhile (· != style.ending)).drop 1 }
      throw .again
  | .print => do
    printPattern style
    pure next
  | .printFirst => do
    modify fun e =>
      e.onOutput style fun o =>
        o.putLine style.ending (e.pattern.takeWhile (· != style.ending)) (e.pattern.contains style.ending || e.isEnded)
    pure next
  | .next => do
    takeNext style false
    pure next
  | .appendNext => do
    takeNext style true
    pure next
  | .hold => do
    modify fun e => { e with hold := e.pattern, isHoldEnded := e.isEnded }
    pure next
  | .holdMore => do
    modify fun e => { e with hold := e.hold ++ style.ending :: e.pattern, isHoldEnded := e.isEnded }
    pure next
  | .take => do
    modify fun e => { e with pattern := e.hold, isEnded := e.isHoldEnded }
    pure next
  | .takeMore => do
    modify fun e => { e with pattern := e.pattern ++ style.ending :: e.hold, isEnded := e.isHoldEnded }
    pure next
  | .exchange => do
    modify fun e =>
      { e with pattern := e.hold, hold := e.pattern, isEnded := e.isHoldEnded, isHoldEnded := e.isEnded }
    pure next
  | .quit prints code => do
    if prints && !style.isQuiet then printPattern style
    if prints then modify fun e => e.onOutput style (·.put style.ending [])
    throw (.quit code)
  | .readFile path => do
    appendText ((style.content? path).getD [])
    pure next
  | .readLine path => do
    readLineOf style path
    pure next
  | .writeTo path => do
    modify fun e => e.onFile style path (·.putLine style.ending e.pattern e.isEnded)
    pure next
  | .writeFirst path => do
    modify fun e =>
      e.onFile style path fun o =>
        o.putLine style.ending (e.pattern.takeWhile (· != style.ending)) (e.pattern.contains style.ending || e.isEnded)
    pure next
  | .substitute s => do
    substitute style s
    pure next
  | .replaceChars pairs => do
    modify fun e => { e with pattern := e.pattern.map fun c => (pairs.lookup c).getD c }
    pure next
  | .number => do
    modify fun e => e.onOutput style (·.put style.ending ((toString e.number).toList ++ [style.ending]))
    pure next
  | .list width => do
    modify fun e => e.onOutput style (·.put style.ending (listing style.ending (width.getD style.width) e.pattern))
    pure next
  | .fileName => do
    modify fun e =>
      e.onOutput style (·.put style.ending (byteChars ((style.names[e.file]?).getD "-") ++ [style.ending]))
    pure next
  | .clear => do
    modify fun e => { e with pattern := [] }
    pure next

/-- Does the commands from a place on, at most so many; at the end of the script the pattern space is printed. -/
def runFrom (style : EditStyle) (limit place : Nat) : EditM Unit := do
  match limit, style.script.commands[place]? with
  | 0, _ => throw .cycle
  | _, none => unless style.isQuiet do printPattern style
  | limit + 1, some c =>
    if ← isSelected style place c then runFrom style limit (← perform style place c)
    else
      match c.action with
      | .block => runFrom style limit ((style.script.blocks.lookup place).getD style.script.commands.size)
      | _ => runFrom style limit (place + 1)

/-- How many commands are done at most for one line. -/
def maxCommands : Nat := 10000000

/-- How a run ended. -/
inductive Ending where
  | exit (code : Nat)
  | noPattern
  /-- A file could not be read. -/
  | unreadable (file : Nat)

/-- Does the script for one line after the other, at most so many times. -/
def cycles (style : EditStyle) (limit : Nat) (takes : Bool) (e : Editor) : Ending × Editor :=
  match limit with
  | 0 => (.exit 0, e)
  | limit + 1 =>
    let e := if takes then e.leaveOut (· == .missing) else e
    if takes && e.isStuck then (.unreadable ((e.input.head?.map InputLine.file).getD 0), e.flush style)
    else
      match if takes then e.advance style false else some e with
      | none => (.exit 0, e.flush style)
      | some e =>
        match (runFrom style maxCommands 0).run e with
        | (.ok (), e) | (.error .cycle, e) => cycles style limit true e
        | (.error .again, e) => cycles style limit false e
        | (.error (.quit code), e) => (.exit code, e.flush style)
        | (.error .noPattern, e) => (.noPattern, e)

/-- What a run comes to: how it ended, what was written to the output, by files if these are edited for themselves, and
what was written to other files. -/
structure Edited where
  ending : Ending
  /-- How many files have been edited. -/
  reached : Nat
  /-- The files that were not there. -/
  missed : List Nat
  /-- Whether some lines were not read. -/
  hasRest : Bool
  outputs : List (Nat × Line)
  outlets : List (String × Line)

/-- Edits the lines of files. -/
def editLines (style : EditStyle) (input : List InputLine) : Edited :=
  let start : Editor :=
    { pattern := [], isEnded := true, hold := [], isHoldEnded := true, number := 0
      file := (input.head?.map InputLine.file).getD 0
      input, missed := [], replaced := false, appended := [], active := [], closed := [], lastMatcher := none
      outputs := []
      outlets := style.script.targets.map (·, .empty), sources := [] }
  let limit := input.foldl (fun n line => n + line.chars.length + 2) maxCommands
  let (ending, e) := cycles style limit true start
  let reached := match e.input, ending with
    | [], .exit _ => style.names.size
    | _, .unreadable file => file
    | _, .noPattern => e.file
    | _, _ => e.file + 1
  ⟨ending, reached, e.missed.reverse, !e.input.isEmpty, e.outputs.map fun (key, o) => (key, o.text),
    e.outlets.map fun (path, o) => (path, o.text)⟩

end Rebuild.Tool.Editing
