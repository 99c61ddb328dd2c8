import Rebuild.Text.Regex.Parser
import Rebuild.Tool.Comparing
import Rebuild.Tool.Wildcards

/-!
# How differences are told

A comparison of files has a form in which it tells what differs, rules that say which lines count as the same and which
differences do not count, and rules for directories. `DiffStyle.key` is what counts of a line, `DiffStyle.isIdle` says
whether a line counts for nothing if it is only in one file.
-/

namespace Rebuild.Tool

open Text

/-- The form in which differences are told. -/
inductive DiffForm where
  | plain
  /-- With lines around them: a stretch of each file, or one of both. -/
  | context
  | unified
  /-- As commands of an editor, the last first or the first first, or with counts of lines. -/
  | script
  | forward
  | counted
  /-- Both files, side by side or merged by formats. -/
  | columns
  | merged
deriving DecidableEq, Repr

/-- Whether the last line of a file may have no end in a form. -/
def DiffForm.allowsOpenEnd : DiffForm → Bool
  | .script | .forward => false
  | _ => true

/-- Which blanks in lines do not count. -/
structure BlankRule where
  /-- Whether tabs count as the spaces up to the next stop. -/
  expandsTabs : Bool := false
  ignoresEnds : Bool := false
  /-- Whether blanks in a row count as one, and those at ends as none. -/
  ignoresRuns : Bool := false
  ignoresAll : Bool := false
deriving DecidableEq, Repr

/-- Whether blanks at the ends of lines do not count. -/
def BlankRule.ignoresTail (r : BlankRule) : Bool :=
  r.ignoresEnds || r.ignoresRuns || r.ignoresAll

/-- The formats by which files are merged, for lines or for stretches of them. -/
structure MergeFormats where
  same : Option Line := none
  gone : Option Line := none
  new : Option Line := none
  changed : Option Line := none

/-- How files are compared and differences told. -/
structure DiffStyle where
  name : String
  form? : Option DiffForm := none
  /-- How many lines are shown around differences. -/
  context : Nat := 0
  isContextGiven : Bool := false
  /-- The number of lines that an option of digits gives. -/
  shortContext? : Option Nat := none
  horizon : Nat := 0
  isBrief : Bool := false
  tellsSame : Bool := false
  ignoresCase : Bool := false
  blanks : BlankRule := {}
  ignoresEmptyLines : Bool := false
  idlePatterns : List Regex := []
  headPatterns : List Regex := []
  showsFunctions : Bool := false
  dropsReturns : Bool := false
  /-- Whether all lines are compared, also those that are only in one file. -/
  isMinimal : Bool := false
  isText : Bool := false
  expandsTabs : Bool := false
  startsWithTab : Bool := false
  endsEmptyLines : Bool := false
  tabSize? : Option Nat := none
  width? : Option Nat := none
  onlyLeftColumn : Bool := false
  hidesCommonLines : Bool := false
  lineFormats : MergeFormats := {}
  groupFormats : MergeFormats := {}
  labels : List String := []
  isRecursive : Bool := false
  /-- Whether what is missing counts as empty, on any side or on the first. -/
  countsMissing : Bool := false
  countsMissingFirst : Bool := false
  keepsLinks : Bool := false
  ignoresNameCase : Bool := false
  excluded : List (String × Bool) := []
  firstName? : Option String := none
  fromPath? : Option String := none
  toPath? : Option String := none
  /-- The options, as they are told before the names of files in directories. -/
  words : String := ""

namespace DiffStyle

/-- The form, once all options are known. -/
def form (s : DiffStyle) : DiffForm :=
  s.form?.getD (if s.showsFunctions then .context else .plain)

/-- How far tab stops are from each other. -/
def tabSize (s : DiffStyle) : Nat :=
  s.tabSize?.getD 8

/-- Whether some differences do not count. -/
def hasIdleLines (s : DiffStyle) : Bool :=
  s.ignoresEmptyLines || !s.idlePatterns.isEmpty

/-- Whether a pattern is found in a line without its end. -/
def finds (patterns : List Regex) (line : Line) : Bool :=
  let line := if line.getLast? == some '\n' then line.dropLast else line
  patterns.any fun pattern => (pattern.find? ⟨line.toArray, false, false⟩ 0).isSome

/-- Whether a line does not count if it is only in one file. -/
def isIdle (s : DiffStyle) (line : Line) : Bool :=
  let isSpace (c : Char) : Bool := c != '\n' && isSpaceByte c
  let body := if s.blanks.ignoresRuns || s.blanks.ignoresAll then line.dropWhile isSpace
    else if s.blanks.ignoresEnds && (line.dropWhile isSpace).all (· == '\n') then []
    else line
  (s.ignoresEmptyLines && body.all (· == '\n')) || finds s.idlePatterns line

/-- A line in which blanks in a row are one, and none stand at the end. -/
def squeezed : Line → Line
  | [] => []
  | c :: rest =>
    let after := squeezed rest
    if isSpaceByte c then if after.isEmpty || after.head? == some ' ' then after else ' ' :: after else c :: after

/-- A line with spaces up to the next stop in the place of each tab. -/
def spread (size column : Nat) : Line → Line
  | [] => []
  | c :: rest =>
    if c == '\t' then
      let count := size - column % size
      List.replicate count ' ' ++ spread size (column + count) rest
    else c :: spread size (column + 1) rest

/-- What counts of a line: two lines are the same if it is. A line without an end is only like another such line, unless
blanks at ends do not count. -/
def key (s : DiffStyle) (line : Line) : Line :=
  let isEnded := line.getLast? == some '\n'
  let text := if isEnded then line.dropLast else line
  let text := if s.ignoresCase then text.map Char.toLower else text
  let text :=
    if s.blanks.ignoresAll then text.filter fun c => !isSpaceByte c
    else if s.blanks.ignoresRuns then squeezed text
    else
      let text := if s.blanks.expandsTabs then spread s.tabSize 0 text else text
      if s.blanks.ignoresEnds then (text.reverse.dropWhile isSpaceByte).reverse else text
  if isEnded || s.blanks.ignoresTail then text else text ++ ['\n']

/-! ## Options -/

/-- Chooses the form, which may not be chosen in two ways. -/
def choose (s : DiffStyle) (form : DiffForm) : ToolM DiffStyle := do
  if s.form?.any (· != form) then failInComparison s.name "conflicting output style options"
  pure { s with form? := some form }

/-- A value that may not be given in two ways. -/
def single [BEq α] (s : DiffStyle) (option shown : String) (before : Option α) (value : α) : ToolM (Option α) := do
  if before.any (· != value) then
    complain s.name s!"conflicting {option} option value '{shown}'"
    complain s.name s!"Try '{s.name} --help' for more information."
    quit 2
  pure (some value)

/-- The number that an argument is; a number that is too large is the greatest. -/
def number (s : DiffStyle) (what : String) (least : Nat) (text : String) : ToolM Nat := do
  let cs := text.toList.dropWhile isSpaceByte
  let digits := if cs.head? == some '+' then cs.drop 1 else cs
  match natural? (String.ofList digits) with
  | some n => if n < least then refuse else pure (min n greatestInteger.toNat)
  | none => if text.isEmpty && least == 0 then pure 0 else refuse
where
  /-- Complains of an argument. -/
  refuse : ToolM Nat :=
    failInComparison s.name s!"invalid {what} '{text}'"

/-- The regular expression that an argument is. -/
def regex (s : DiffStyle) (text : String) : ToolM Regex := do
  match Regex.ofText? ⟨false, false, false⟩ (byteChars text) with
  | .ok parsed => pure parsed.regex
  | .error fault => fail s.name s!"{text}: {fault.text}" 2

/-- The formats that merge files by conditions on a name. -/
def conditional (condition : String) : MergeFormats :=
  let text (parts : List String) : Option Line := some (byteChars (String.join parts))
  { same := text ["%="]
    gone := text ["#ifndef ", condition, "\n%<#endif /* ! ", condition, " */\n"]
    new := text ["#ifdef ", condition, "\n%>#endif /* ", condition, " */\n"]
    changed := text
      ["#ifndef ", condition, "\n%<#else /* ", condition, " */\n%>#endif /* ", condition, " */\n"] }

/-- Takes the formats that are given in addition to those that there are. -/
def withFormats (s : DiffStyle) (option : String) (before given : MergeFormats) : ToolM MergeFormats := do
  let take (old new : Option Line) : ToolM (Option Line) := do
    match new with
    | some format => s.single option (ofByteChars format) old format
    | none => pure old
  pure ⟨← take before.same given.same, ← take before.gone given.gone, ← take before.new given.new,
    ← take before.changed given.changed⟩

/-- Takes a format by the name of its option, if it has one. -/
def takeFormat? (s : DiffStyle) (option text : String) : Option (ToolM DiffStyle) :=
  let format := byteChars text
  let lines (formats : MergeFormats) : ToolM DiffStyle := do
    let s ← s.choose .merged
    pure { s with lineFormats := ← s.withFormats ("--" ++ option) s.lineFormats formats }
  let groups (formats : MergeFormats) : ToolM DiffStyle := do
    let s ← s.choose .merged
    pure { s with groupFormats := ← s.withFormats ("--" ++ option) s.groupFormats formats }
  match option with
  | "line-format" => some (lines { same := some format, gone := some format, new := some format })
  | "unchanged-line-format" => some (lines { same := some format })
  | "old-line-format" => some (lines { gone := some format })
  | "new-line-format" => some (lines { new := some format })
  | "unchanged-group-format" => some (groups { same := some format })
  | "old-group-format" => some (groups { gone := some format })
  | "new-group-format" => some (groups { new := some format })
  | "changed-group-format" => some (groups { changed := some format })
  | _ => none

/-- Takes an option without an argument that only says how something is told or counted, if it is one. -/
def takeFlag? (s : DiffStyle) (option : String) : Option DiffStyle :=
  match option with
  | "brief" => some { s with isBrief := true }
  | "report-identical-files" => some { s with tellsSame := true }
  | "ignore-case" => some { s with ignoresCase := true }
  | "ignore-all-space" => some { s with blanks := { s.blanks with ignoresAll := true } }
  | "ignore-space-change" => some { s with blanks := { s.blanks with ignoresRuns := true } }
  | "ignore-trailing-space" => some { s with blanks := { s.blanks with ignoresEnds := true } }
  | "ignore-tab-expansion" => some { s with blanks := { s.blanks with expandsTabs := true } }
  | "ignore-blank-lines" => some { s with ignoresEmptyLines := true }
  | "strip-trailing-cr" => some { s with dropsReturns := true }
  | "minimal" => some { s with isMinimal := true }
  | "text" => some { s with isText := true }
  | "expand-tabs" => some { s with expandsTabs := true }
  | "initial-tab" => some { s with startsWithTab := true }
  | "suppress-blank-empty" => some { s with endsEmptyLines := true }
  | "left-column" => some { s with onlyLeftColumn := true }
  | "suppress-common-lines" => some { s with hidesCommonLines := true }
  | "recursive" => some { s with isRecursive := true }
  | "new-file" => some { s with countsMissing := true }
  | "unidirectional-new-file" => some { s with countsMissingFirst := true }
  | "no-dereference" => some { s with keepsLinks := true }
  | "ignore-file-name-case" => some { s with ignoresNameCase := true }
  | "no-ignore-file-name-case" => some { s with ignoresNameCase := false }
  | _ => none

/-- Takes an option without an argument. -/
def takePlain (s : DiffStyle) (option : String) : ToolM DiffStyle := do
  match option with
  | "c" | "u" => do
    let s ← s.choose (if option == "u" then .unified else .context)
    pure { s with context := max s.context 3 }
  | "normal" => s.choose .plain
  | "ed" => s.choose .script
  | "forward-ed" => s.choose .forward
  | "rcs" => s.choose .counted
  | "side-by-side" => s.choose .columns
  | "show-c-function" => do
    let pattern ← s.regex "^[[:alpha:]$_]"
    pure { s with showsFunctions := true, headPatterns := pattern :: s.headPatterns }
  | _ => pure ((s.takeFlag? option).getD s)

/-- Takes a number of lines to be shown around differences. -/
def takeContext (s : DiffStyle) (form : DiffForm) (argument : Option String) : ToolM DiffStyle := do
  let count ← match argument with
    | some text => s.number "context length" 0 text
    | none => pure 3
  let s ← s.choose form
  pure { s with context := max s.context count, isContextGiven := true }

/-- Takes the patterns of names that are left out from a file. -/
def takeExcluded (s : DiffStyle) (path : String) : ToolM DiffStyle := do
  match ← readOperand path with
  | .error fault => fail s.name s!"{path}: {fault.text}" 2
  | .ok bytes =>
    let names := (linesOf '\n' bytes).1.filterMap fun line =>
      let text := (line.reverse.dropWhile isSpaceByte).reverse
      if text.isEmpty then none else some (ofByteChars text, s.ignoresNameCase)
    pure { s with excluded := s.excluded ++ names }

/-- Takes an option with an argument. -/
def takeWith (s : DiffStyle) (option text : String) : ToolM DiffStyle := do
  match option with
  | "C" | "context" => s.takeContext .context (some text)
  | "U" | "unified" => s.takeContext .unified (some text)
  | "ifdef" => do
    let s ← s.choose .merged
    pure { s with groupFormats := ← s.withFormats "-D" s.groupFormats (conditional text) }
  | "ignore-matching-lines" => pure { s with idlePatterns := (← s.regex text) :: s.idlePatterns }
  | "show-function-line" => pure { s with headPatterns := (← s.regex text) :: s.headPatterns }
  | "label" =>
    if s.labels.length < 2 then pure { s with labels := s.labels ++ [text] }
    else fail s.name "too many file label options" 2
  | "starting-file" => pure { s with firstName? := ← s.single "-S" text s.firstName? text }
  | "from-file" => pure { s with fromPath? := ← s.single "--from-file" text s.fromPath? text }
  | "to-file" => pure { s with toPath? := ← s.single "--to-file" text s.toPath? text }
  | "exclude" => pure { s with excluded := s.excluded ++ [(text, s.ignoresNameCase)] }
  | "exclude-from" => s.takeExcluded text
  | "horizon-lines" => pure { s with horizon := max s.horizon (← s.number "horizon length" 0 text) }
  | "width" => do
    let width ← s.number "width" 1 text
    if s.width?.any (· != width) then fail s.name "conflicting width options" 2
    pure { s with width? := some width }
  | "tabsize" => do
    let size ← s.number "tabsize" 1 text
    if s.tabSize?.any (· != size) then fail s.name "conflicting tabsize options" 2
    pure { s with tabSize? := some size }
  | _ => (s.takeFormat? option text).getD (pure s)

/-- Takes an option. Digits in a row are one number. -/
def take (state : DiffStyle × Bool) (given : Given) : ToolM (DiffStyle × Bool) := do
  let (s, hadDigit) := state
  match given, natural? given.1 with
  | _, some digit =>
    let before := if hadDigit then s.shortContext?.getD 0 else 0
    pure ({ s with shortContext? := some (before * 10 + digit) }, true)
  | (option, some text), none => pure (← s.takeWith option text, false)
  | ("context", none), none => pure (← s.takeContext .context none, false)
  | ("unified", none), none => pure (← s.takeContext .unified none, false)
  | (option, none), none => pure (← s.takePlain option, false)

/-- The formats that are used where none is given. -/
def completed (s : DiffStyle) : DiffStyle :=
  let line (format : Option Line) : Option Line := some (format.getD (byteChars "%l\n"))
  let g := s.groupFormats
  let gone := g.gone.getD (g.changed.getD (byteChars "%<"))
  let new := g.new.getD (g.changed.getD (byteChars "%>"))
  let form := s.form
  let context := match s.shortContext? with
    | some n =>
      if (form == .context || form == .unified) && (s.context < n || (n < s.context && !s.isContextGiven)) then n
      else s.context
    | none => if s.form?.isNone && s.showsFunctions then 3 else s.context
  { s with
    form? := some form
    context := context
    horizon := max s.horizon context
    lineFormats := ⟨line s.lineFormats.same, line s.lineFormats.gone, line s.lineFormats.new, none⟩
    groupFormats :=
      ⟨some (g.same.getD (byteChars "%=")), some gone, some new, some (g.changed.getD (gone ++ new))⟩ }

/-- Whether nothing is written if nothing differs. -/
def isSilentIfSame (s : DiffStyle) : Bool :=
  match s.form with
  | .merged =>
    let format := s.groupFormats.same.getD []
    format.isEmpty || (format == byteChars "%=" && (s.lineFormats.same.getD []).isEmpty)
  | .columns => s.hidesCommonLines
  | _ => true

end DiffStyle

/-- The options of `diff`. -/
def diffRules : List OptionRule :=
  (["0", "1", "2", "3", "4", "5", "6", "7", "8", "9"].map fun digit => ⟨digit, "", .none⟩) ++
  [⟨"", "binary", .none⟩, ⟨"q", "brief", .none⟩, ⟨"", "changed-group-format", .required⟩, ⟨"", "color", .optional⟩,
   ⟨"c", "", .none⟩, ⟨"C", "", .required⟩, ⟨"", "context", .optional⟩, ⟨"e", "ed", .none⟩, ⟨"x", "exclude", .required⟩,
   ⟨"X", "exclude-from", .required⟩, ⟨"t", "expand-tabs", .none⟩, ⟨"f", "forward-ed", .none⟩,
   ⟨"", "from-file", .required⟩, ⟨"", "horizon-lines", .required⟩, ⟨"D", "ifdef", .required⟩,
   ⟨"w", "ignore-all-space", .none⟩, ⟨"B", "ignore-blank-lines", .none⟩, ⟨"i", "ignore-case", .none⟩,
   ⟨"", "ignore-file-name-case", .none⟩, ⟨"I", "ignore-matching-lines", .required⟩,
   ⟨"b", "ignore-space-change", .none⟩, ⟨"E", "ignore-tab-expansion", .none⟩,
   ⟨"Z", "ignore-trailing-space", .none⟩, ⟨"", "inhibit-hunk-merge", .none⟩, ⟨"T", "initial-tab", .none⟩,
   ⟨"L", "label", .required⟩, ⟨"", "left-column", .none⟩, ⟨"", "line-format", .required⟩, ⟨"d", "minimal", .none⟩,
   ⟨"N", "new-file", .none⟩, ⟨"", "new-group-format", .required⟩, ⟨"", "new-line-format", .required⟩,
   ⟨"", "no-dereference", .none⟩, ⟨"", "no-ignore-file-name-case", .none⟩, ⟨"", "normal", .none⟩,
   ⟨"", "old-group-format", .required⟩, ⟨"", "old-line-format", .required⟩, ⟨"l", "paginate", .none⟩,
   ⟨"", "palette", .required⟩, ⟨"n", "rcs", .none⟩, ⟨"r", "recursive", .none⟩,
   ⟨"s", "report-identical-files", .none⟩, ⟨"", "sdiff-merge-assist", .none⟩, ⟨"p", "show-c-function", .none⟩,
   ⟨"F", "show-function-line", .required⟩, ⟨"y", "side-by-side", .none⟩, ⟨"H", "speed-large-files", .none⟩,
   ⟨"S", "starting-file", .required⟩, ⟨"", "strip-trailing-cr", .none⟩, ⟨"", "suppress-blank-empty", .none⟩,
   ⟨"", "suppress-common-lines", .none⟩, ⟨"", "tabsize", .required⟩, ⟨"a", "text", .none⟩,
   ⟨"", "to-file", .required⟩, ⟨"", "unchanged-group-format", .required⟩, ⟨"", "unchanged-line-format", .required⟩,
   ⟨"P", "unidirectional-new-file", .none⟩, ⟨"u", "", .none⟩, ⟨"U", "", .required⟩, ⟨"", "unified", .optional⟩,
   ⟨"W", "width", .required⟩, ⟨"h", "", .none⟩, ⟨"v", "version", .none⟩, ⟨"", "help", .none⟩]

end Rebuild.Tool
