import Rebuild.Text.Regex.Parser
import Rebuild.Tool.Amount
import Rebuild.Tool.Input
import Rebuild.Tool.Wildcards

/-!
# How lines are searched

A search has patterns, which are written in one of three ways, rules for the files in which it looks, and rules for what
is printed of the lines that it selects. `SearchStyle.take` is what an option makes of a search.
-/

namespace Rebuild.Tool

open Text

/-- How patterns are written. -/
inductive PatternKind where
  | basic
  | extended
  | fixed
deriving DecidableEq, Repr

/-- What is made of files that are no text: it is told that they match, they count as text, or as files that do not
match. -/
inductive BinaryRule where
  | told
  | asText
  | unmatched
deriving DecidableEq, Repr

/-- Which files are listed. -/
inductive ListRule where
  | nothing
  | matching
  | unmatching
deriving DecidableEq, Repr

/-- What is made of directories. -/
inductive DirectoryRule where
  | read
  | recurse
  | skip
deriving DecidableEq, Repr

/-- A pattern for names: what fits is looked at, or left out. -/
structure NameRule where
  pattern : String
  isIncluded : Bool
deriving DecidableEq, Repr

/-- How lines are searched and printed. -/
structure SearchStyle where
  name : String
  kind? : Option PatternKind := none
  /-- Whether patterns are written in the way that has its own option. -/
  isPerl : Bool := false
  patterns? : Option (List Line) := none
  ignoresCase : Bool := false
  negates : Bool := false
  matchesWords : Bool := false
  matchesLines : Bool := false
  counts : Bool := false
  list : ListRule := .nothing
  isQuiet : Bool := false
  isSilent : Bool := false
  most? : Option Nat := none
  before? : Option Nat := none
  after? : Option Nat := none
  around? : Option Nat := none
  showsNames? : Option Bool := none
  showsNumbers : Bool := false
  showsOffsets : Bool := false
  alignsTabs : Bool := false
  endsNames : Bool := false
  ending : Char := '\n'
  onlyMatches : Bool := false
  label : String := "(standard input)"
  binary : BinaryRule := .told
  directories : DirectoryRule := .read
  followsLinks : Bool := false
  skipsDevices : Bool := false
  separator? : Option String := some "--"
  isColored : Bool := false
  fileRules : List NameRule := []
  directoryRules : List NameRule := []

namespace SearchStyle

/-- How many lines before and after those that are selected are printed. -/
def context (s : SearchStyle) : Nat × Nat :=
  (s.before?.getD (s.around?.getD 0), s.after?.getD (s.around?.getD 0))

/-- Whether a number of lines to be printed around others was given. -/
def hasContext (s : SearchStyle) : Bool :=
  s.before?.isSome || s.after?.isSome || s.around?.isSome

/-- Complains if there is something to complain of, says how searches are asked for, and ends. -/
def refuse (complaint? : Option String) (name : String) : ToolM α := do
  match complaint? with
  | some text => complain name text
  | none => pure ()
  ExceptT.lift (Process.sayError
    s!"Usage: {name} [OPTION]... PATTERNS [FILE]...\nTry '{name} --help' for more information.\n")
  quit 2

/-- Chooses how patterns are written, which may not be chosen in two ways. -/
def choose (s : SearchStyle) (kind : PatternKind) (isPerl : Bool) : ToolM SearchStyle := do
  if s.kind?.any fun chosen => chosen != kind || s.isPerl != isPerl then
    fail s.name "conflicting matchers specified" 2
  pure { s with kind? := some kind, isPerl }

/-- The lines of a text of patterns. -/
def patternsIn (text : Line) : List Line :=
  text.splitOnP (· == '\n')

/-- Takes patterns. -/
def withPatterns (s : SearchStyle) (patterns : List Line) : SearchStyle :=
  { s with patterns? := some (s.patterns?.getD [] ++ patterns) }

/-- Takes the patterns in a file. -/
def takePatterns (s : SearchStyle) (path : String) : ToolM SearchStyle := do
  match ← readOperand path with
  | .error fault => fail s.name s!"{path}: {fault.text}" 2
  | .ok bytes => pure (s.withPatterns (linesOf '\n' bytes).1)

/-- The number of lines around others that an argument is. -/
def contextOf (s : SearchStyle) (text : String) : ToolM Nat := do
  match amountOf "" (-greatestInteger) greatestInteger text with
  | .ok n => if n < 0 then wrong else pure n.toNat
  | .error .malformed => wrong
  | .error _ => if text.startsWith "-" then wrong else pure greatestInteger.toNat
where
  /-- Complains of an argument. -/
  wrong : ToolM Nat :=
    fail s.name s!"{text}: invalid context length argument" 2

/-- Takes how many lines are selected at most; there is no bound if the number is negative. -/
def takeMost (s : SearchStyle) (text : String) : ToolM SearchStyle := do
  match amountOf "" (-greatestInteger) greatestInteger text with
  | .ok n => pure { s with most? := if n < 0 then none else some n.toNat }
  | .error .malformed => fail s.name "invalid max count" 2
  | .error _ => pure { s with most? := none }

/-- Takes what is made of directories. -/
def takeDirectories (s : SearchStyle) (text : String) : ToolM SearchStyle := do
  let found := [("read", DirectoryRule.read), ("recurse", .recurse), ("skip", .skip)].filter (·.1.startsWith text)
  match found with
  | [(_, rule)] => pure { s with directories := rule }
  | found =>
    let kind := if found.isEmpty then "invalid" else "ambiguous"
    complain s.name (s!"{kind} argument {plainlyQuoted text} for " ++ plainlyQuoted "--directories")
    ExceptT.lift (Process.sayError "Valid arguments are:\n  - 'read'\n  - 'recurse'\n  - 'skip'\n")
    refuse none s.name

/-- Takes the patterns of names that are left out from a file. -/
def takeNameRules (s : SearchStyle) (path : String) : ToolM SearchStyle := do
  match ← readOperand path with
  | .error fault => fail s.name s!"{path}: {fault.text}" 2
  | .ok bytes =>
    let rules := (linesOf '\n' bytes).1.filterMap fun line =>
      let text := (line.reverse.dropWhile isSpaceByte).reverse
      if text.isEmpty then none else some ⟨ofByteChars text, false⟩
    pure { s with fileRules := s.fileRules ++ rules }

/-- A pattern for the names of directories without slashes at its end. -/
def withoutSlashes (text : String) : String :=
  let short := (text.toList.reverse.dropWhile (· == '/')).reverse
  if short.isEmpty then text else String.ofList short

/-- Takes an option without an argument that only says how lines are selected or printed, if it is one. -/
def takeFlag? (s : SearchStyle) (option : String) : Option SearchStyle :=
  match option with
  | "ignore-case" => some { s with ignoresCase := true }
  | "no-ignore-case" => some { s with ignoresCase := false }
  | "invert-match" => some { s with negates := true }
  | "word-regexp" => some { s with matchesWords := true }
  | "line-regexp" => some { s with matchesLines := true }
  | "count" => some { s with counts := true }
  | "files-with-matches" => some { s with list := .matching }
  | "files-without-match" => some { s with list := .unmatching }
  | "quiet" | "silent" => some { s with isQuiet := true }
  | "no-messages" => some { s with isSilent := true }
  | "with-filename" => some { s with showsNames? := some true }
  | "no-filename" => some { s with showsNames? := some false }
  | "line-number" => some { s with showsNumbers := true }
  | "byte-offset" => some { s with showsOffsets := true }
  | "initial-tab" => some { s with alignsTabs := true }
  | "null" => some { s with endsNames := true }
  | "null-data" => some { s with ending := '\x00' }
  | "only-matching" => some { s with onlyMatches := true }
  | "text" => some { s with binary := .asText }
  | "I" => some { s with binary := .unmatched }
  | "recursive" => some { s with directories := .recurse, followsLinks := false }
  | "dereference-recursive" => some { s with directories := .recurse, followsLinks := true }
  | "no-group-separator" => some { s with separator? := none }
  | _ => none

/-- Takes an option with an argument. -/
def takeWith (s : SearchStyle) (option text : String) : ToolM SearchStyle := do
  match option with
  | "regexp" => pure (s.withPatterns (patternsIn (byteChars text)))
  | "file" => s.takePatterns text
  | "after-context" => pure { s with after? := some (← s.contextOf text) }
  | "before-context" => pure { s with before? := some (← s.contextOf text) }
  | "context" => pure { s with around? := some (← s.contextOf text) }
  | "max-count" => s.takeMost text
  | "label" => pure { s with label := text }
  | "directories" => s.takeDirectories text
  | "devices" =>
    match text with
    | "read" => pure { s with skipsDevices := false }
    | "skip" => pure { s with skipsDevices := true }
    | _ => fail s.name "unknown devices method" 2
  | "binary-files" =>
    match text with
    | "binary" => pure { s with binary := .told }
    | "text" => pure { s with binary := .asText }
    | "without-match" => pure { s with binary := .unmatched }
    | _ => fail s.name "unknown binary-files type" 2
  | "X" =>
    match text with
    | "grep" => s.choose .basic false
    | "egrep" | "awk" | "gawk" | "posixawk" => s.choose .extended false
    | "fgrep" => s.choose .fixed false
    | "perl" => s.choose .extended true
    | _ => fail s.name s!"invalid matcher {text}" 2
  | "color" | "colour" => pure { s with isColored := ["always", "yes", "force"].contains text }
  | "group-separator" => pure { s with separator? := some text }
  | "include" => pure { s with fileRules := s.fileRules ++ [⟨text, true⟩] }
  | "exclude" => pure { s with fileRules := s.fileRules ++ [⟨text, false⟩] }
  | "exclude-from" => s.takeNameRules text
  | "exclude-dir" => pure { s with directoryRules := s.directoryRules ++ [⟨withoutSlashes text, false⟩] }
  | _ => pure s

/-- Takes an option. Digits in a row are one number. -/
def take (state : SearchStyle × Option Nat) (given : Given) : ToolM (SearchStyle × Option Nat) := do
  let (s, digits?) := state
  match given, natural? given.1 with
  | _, some digit =>
    let n := digits?.getD 0 * 10 + digit
    pure ({ s with around? := some n }, some n)
  | (option, some text), none => pure (← s.takeWith option text, none)
  | ("basic-regexp", none), none => pure (← s.choose .basic false, none)
  | ("extended-regexp", none), none => pure (← s.choose .extended false, none)
  | ("fixed-strings", none), none | ("fixed-regexp", none), none => pure (← s.choose .fixed false, none)
  | ("perl-regexp", none), none => pure (← s.choose .extended true, none)
  | (option, none), none => pure ((s.takeFlag? option).getD s, none)

end SearchStyle

/-- The options of a search. -/
def searchRules : List OptionRule :=
  (["0", "1", "2", "3", "4", "5", "6", "7", "8", "9"].map fun digit => ⟨digit, "", .none⟩) ++
  [⟨"E", "extended-regexp", .none⟩, ⟨"F", "fixed-strings", .none⟩, ⟨"", "fixed-regexp", .none⟩,
   ⟨"G", "basic-regexp", .none⟩, ⟨"P", "perl-regexp", .none⟩, ⟨"X", "", .required⟩, ⟨"e", "regexp", .required⟩,
   ⟨"f", "file", .required⟩, ⟨"iy", "ignore-case", .none⟩, ⟨"", "no-ignore-case", .none⟩,
   ⟨"v", "invert-match", .none⟩, ⟨"w", "word-regexp", .none⟩, ⟨"x", "line-regexp", .none⟩, ⟨"c", "count", .none⟩,
   ⟨"", "color", .optional⟩, ⟨"", "colour", .optional⟩, ⟨"L", "files-without-match", .none⟩,
   ⟨"l", "files-with-matches", .none⟩, ⟨"m", "max-count", .required⟩, ⟨"o", "only-matching", .none⟩,
   ⟨"q", "quiet", .none⟩, ⟨"", "silent", .none⟩, ⟨"s", "no-messages", .none⟩, ⟨"b", "byte-offset", .none⟩,
   ⟨"u", "unix-byte-offsets", .none⟩, ⟨"H", "with-filename", .none⟩, ⟨"h", "no-filename", .none⟩,
   ⟨"n", "line-number", .none⟩, ⟨"T", "initial-tab", .none⟩, ⟨"Z", "null", .none⟩, ⟨"z", "null-data", .none⟩,
   ⟨"", "label", .required⟩, ⟨"A", "after-context", .required⟩, ⟨"B", "before-context", .required⟩,
   ⟨"C", "context", .required⟩, ⟨"", "group-separator", .required⟩, ⟨"", "no-group-separator", .none⟩,
   ⟨"a", "text", .none⟩, ⟨"I", "", .none⟩, ⟨"", "binary-files", .required⟩, ⟨"U", "binary", .none⟩,
   ⟨"d", "directories", .required⟩, ⟨"D", "devices", .required⟩, ⟨"r", "recursive", .none⟩,
   ⟨"R", "dereference-recursive", .none⟩, ⟨"", "include", .required⟩, ⟨"", "exclude", .required⟩,
   ⟨"", "exclude-from", .required⟩, ⟨"", "exclude-dir", .required⟩, ⟨"", "line-buffered", .none⟩,
   ⟨"V", "version", .none⟩, ⟨"", "help", .none⟩]

end Rebuild.Tool
