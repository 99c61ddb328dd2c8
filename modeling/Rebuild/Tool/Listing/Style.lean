import Rebuild.Text.ShellQuoted
import Rebuild.Tool.Amount

/-!
# How names are listed

A listing has an order, an arrangement on lines, a way in which names are written, and parts that stand before the name.
`ListStyle.take` is what an option makes of a listing.
-/

namespace Rebuild.Tool

open Text

/-- What names are listed by. -/
inductive ListOrder where
  | name
  | time
  | size
  | ending
  | version
  | width
  | none
deriving DecidableEq, Repr

/-- How names are arranged: each on a line, in columns read downwards or across, or with commas between them. -/
inductive ListLayout where
  | lines
  | long
  | columns
  | rows
  | commas
deriving DecidableEq, Repr

/-- How names are written. -/
inductive NameStyle where
  | literal
  | shell
  | shellAlways
  | shellEscape
  | shellEscapeAlways
  | plain
  | c
  | cIfNeeded
  | escape
deriving DecidableEq, Repr

/-- What marks stand after names: none, one for directories, one for all kinds but programs, or one for all. -/
inductive MarkRule where
  | none
  | slash
  | kind
  | all
deriving DecidableEq, Repr

/-- Which names are listed: those that do not begin with a dot, all but the directory and the one above it, or all. -/
inductive DotRule where
  | hidden
  | almostAll
  | all
deriving DecidableEq, Repr

/-- Which links are followed. -/
inductive FollowRule where
  | usual
  | operands
  | always
deriving DecidableEq, Repr

/-- In what unit sizes are told: in one, with what follows the number, or in the first in which the number is small. -/
inductive SizeUnit where
  | fixed (size : Nat) (mark : String)
  | scaled (base : Nat)
deriving DecidableEq, Repr

/-- How names are listed. -/
structure ListStyle where
  dots : DotRule := .hidden
  layout : ListLayout := .lines
  showsOwner : Bool := true
  showsGroup : Bool := true
  showsAuthor : Bool := false
  showsContext : Bool := false
  isNumeric : Bool := false
  showsNumber : Bool := false
  showsBlocks : Bool := false
  sizes : SizeUnit := .fixed 1 ""
  blocks : SizeUnit := .fixed 1024 ""
  marks : MarkRule := .none
  order? : Option ListOrder := none
  /-- Whether another time than that of the last change was asked for. -/
  hasOtherTime : Bool := false
  isReversed : Bool := false
  directoriesFirst : Bool := false
  isRecursive : Bool := false
  listsDirectories : Bool := true
  follows : FollowRule := .usual
  ignored : List String := []
  hidden : List String := []
  names : NameStyle := .literal
  hidesControls : Bool := false
  /-- The formats of times long ago and of others. -/
  times : String × String := ("%b %e  %Y", "%b %e %H:%M")
  ending : Char := '\n'
  /-- How many places a line has. -/
  width? : Option Nat := none
  tab : Nat := 8

namespace ListStyle

/-- What names are listed by in the end. -/
def order (s : ListStyle) : ListOrder :=
  s.order?.getD (if s.hasOtherTime && s.layout != .long then .time else .name)

/-- Whether much is told of each name. -/
def isLong (s : ListStyle) : Bool :=
  s.layout == .long

/-! ## Names -/

/-- A byte of a name in double quotes or, if the quote is missing, among others. -/
def escapedByte (quote : Char) (c : Char) : String :=
  if c == '\\' || c == quote then "\\" ++ c.toString
  else if isPrintableByte c then c.toString
  else byteEscape c

/-- A name between double quotes, with escapes. -/
def doublyQuoted (cs : List Char) : String :=
  "\"" ++ String.join (cs.map (escapedByte '"')) ++ "\""

/-- A name between single quotes, without escapes. -/
def singlyQuoted (cs : List Char) : String :=
  if cs.contains '\'' && fitsDoubleQuotes cs then "\"" ++ String.ofList cs ++ "\""
  else "'" ++ String.join (cs.map fun c => if c == '\'' then "'\\''" else ofByteChars [c]) ++ "'"

/-- The name as it is written. -/
def written (s : ListStyle) (name : String) : String :=
  let cs := byteChars name
  let cs := if s.hidesControls then cs.map fun c => if isPrintableByte c then c else '?' else cs
  match s.names with
  | .literal => ofByteChars cs
  | .shell => if needsShellQuotes cs then singlyQuoted cs else ofByteChars cs
  | .shellAlways => singlyQuoted cs
  | .shellEscape => shellWord (ofByteChars cs)
  | .shellEscapeAlways => shellQuoted (ofByteChars cs)
  | .plain => plainlyQuoted (ofByteChars cs)
  | .c => doublyQuoted cs
  | .cIfNeeded => if cs.any fun c => escapedByte '"' c != c.toString then doublyQuoted cs else ofByteChars cs
  | .escape => String.join (cs.map (escapedByte ' '))

/-- Whether some names are written in quotes and others are not. -/
def quotesSome (s : ListStyle) : Bool :=
  s.names == .shell || s.names == .shellEscape || s.names == .cIfNeeded

/-- Whether a name is written in quotes that others do not have. -/
def isQuoted (s : ListStyle) (name : String) : Bool :=
  let cs := byteChars name
  if s.names == .cIfNeeded then cs.any fun c => escapedByte '"' c != c.toString else needsShellQuotes cs

/-- How many places a text takes: as many as it has bytes that can be printed. -/
def placesOf (text : String) : Nat :=
  (byteChars text).countP isPrintableByte

/-! ## Options -/

/-- The wording of the times that can be asked for. -/
def timeStyles : List String :=
  ["[posix-]full-iso", "[posix-]long-iso", "[posix-]iso", "[posix-]locale",
   "+FORMAT (e.g., +%H:%M) for a 'date'-style format"]

/-- Takes the formats of times. -/
def takeTimes (s : ListStyle) (name text : String) : ToolM ListStyle := do
  let text := if text.startsWith "posix-" then (text.drop 6).toString else text
  if text.startsWith "+" then
    match (text.drop 1).toString.splitOn "\n" with
    | [format] => return { s with times := (format, format) }
    | [old, new] => return { s with times := (old, new) }
    | _ => fail name s!"invalid time style format {plainlyQuoted (text.drop 1).toString}" 2
  let known : List (String × (String × String)) :=
    [("full-iso", ("%Y-%m-%d %H:%M:%S.%N %z", "%Y-%m-%d %H:%M:%S.%N %z")),
     ("long-iso", ("%Y-%m-%d %H:%M", "%Y-%m-%d %H:%M")), ("iso", ("%Y-%m-%d ", "%m-%d %H:%M")),
     ("locale", s.times)]
  match known.filter (·.1.startsWith text) with
  | [(_, times)] => pure { s with times }
  | found =>
    let wording := if found.isEmpty then "invalid" else "ambiguous"
    complain name (s!"{wording} argument {plainlyQuoted text} for " ++ plainlyQuoted "time style")
    ExceptT.lift (Process.sayError
      ("Valid arguments are:\n" ++ String.join (timeStyles.map fun t => "  - " ++ t ++ "\n")))
    ExceptT.lift (Process.sayError s!"Try '{name} --help' for more information.\n")
    quit 2

/-- The unit that an argument is, if it is one. -/
def sizeUnit? (text : String) : Option SizeUnit :=
  match text with
  | "human-readable" => some (.scaled 1024)
  | "si" => some (.scaled 1000)
  | text =>
    match amountOf "kKmMGTPEZYRQ0" 0 greatestInteger text with
    | .ok n =>
      let mark := if text.toList.head?.any Char.isDigit then ""
        else if text.endsWith "iB" || !text.endsWith "B" then text
        else if text == "KB" then "kB" else text
      if n == 0 then none else some (.fixed n.toNat mark)
    | .error _ => none

/-- Takes an option with an argument. -/
def takeWith (s : ListStyle) (name option text : String) : ToolM ListStyle := do
  match option with
  | "hide" => pure { s with hidden := s.hidden ++ [text] }
  | "ignore" => pure { s with ignored := s.ignored ++ [text] }
  | "sort" =>
    let choices : List (String × ListOrder) :=
      [("none", .none), ("time", .time), ("size", .size), ("extension", .ending), ("version", .version),
       ("width", .width)]
    pure { s with order? := some (← readChoice name "--sort" 2 choices text) }
  | "time" =>
    let choices : List (String × Nat) :=
      [("atime", 0), ("access", 0), ("use", 0), ("ctime", 1), ("status", 1), ("mtime", 2), ("modification", 2),
       ("birth", 3), ("creation", 3)]
    let _ ← readChoice name "--time" 2 choices text
    pure { s with hasOtherTime := true }
  | "format" =>
    let choices : List (String × ListLayout) :=
      [("verbose", .long), ("long", .long), ("commas", .commas), ("horizontal", .rows), ("across", .rows),
       ("vertical", .columns), ("single-column", .lines)]
    pure { s with layout := ← readChoice name "--format" 2 choices text }
  | "indicator-style" =>
    let choices : List (String × MarkRule) :=
      [("none", .none), ("slash", .slash), ("file-type", .kind), ("classify", .all)]
    pure { s with marks := ← readChoice name "--indicator-style" 2 choices text }
  | "quoting-style" =>
    let choices : List (String × NameStyle) :=
      [("literal", .literal), ("shell", .shell), ("shell-always", .shellAlways), ("shell-escape", .shellEscape),
       ("shell-escape-always", .shellEscapeAlways), ("c", .c), ("c-maybe", .cIfNeeded), ("escape", .escape),
       ("locale", .plain), ("clocale", .c)]
    pure { s with names := ← readChoice name "--quoting-style" 2 choices text }
  | "classify" =>
    let choices : List (String × Bool) :=
      [("always", true), ("yes", true), ("force", true), ("never", false), ("no", false), ("none", false),
       ("auto", false), ("tty", false), ("if-tty", false)]
    pure (if ← readChoice name "--classify" 2 choices text then { s with marks := .all } else s)
  | "time-style" => s.takeTimes name text
  | "width" =>
    match amountOf "" 0 greatestInteger text with
    | .ok n => pure { s with width? := some n.toNat }
    | .error .malformed => fail name s!"invalid line width: {plainlyQuoted text}" 2
    | .error _ => pure { s with width? := some 0 }
  | "tabsize" => pure { s with tab := (← readAmount name "invalid tab size" 2 "" 0 greatestInteger text).toNat }
  | "block-size" =>
    match sizeUnit? text with
    | some unit => pure { s with sizes := unit, blocks := unit }
    | none => fail name s!"invalid --block-size argument {plainlyQuoted text}" 2
  | _ => pure s

/-- Takes an option without an argument. -/
def takeFlag (s : ListStyle) (option : String) : ListStyle :=
  match option with
  | "all" => { s with dots := .all }
  | "almost-all" => { s with dots := .almostAll }
  | "escape" => { s with names := .escape }
  | "ignore-backups" => { s with ignored := s.ignored ++ ["*~", ".*~"] }
  | "c" | "u" => { s with hasOtherTime := true }
  | "C" => { s with layout := .columns }
  | "directory" => { s with listsDirectories := false }
  | "f" =>
    { s with
      dots := .all, order? := some .none, showsBlocks := false
      layout := if s.isLong then .lines else s.layout }
  | "classify" => { s with marks := .all }
  | "file-type" => { s with marks := .kind }
  | "p" => { s with marks := .slash }
  | "g" => { s with layout := .long, showsOwner := false }
  | "o" => { s with layout := .long, showsGroup := false }
  | "no-group" => { s with showsGroup := false }
  | "author" => { s with showsAuthor := true }
  | "context" => { s with showsContext := true }
  | "human-readable" => { s with sizes := .scaled 1024, blocks := .scaled 1024 }
  | "si" => { s with sizes := .scaled 1000, blocks := .scaled 1000 }
  | "dereference-command-line" => { s with follows := .operands }
  | "dereference" => { s with follows := .always }
  | "inode" => { s with showsNumber := true }
  | "l" => { s with layout := .long }
  | "m" => { s with layout := .commas }
  | "x" => { s with layout := .rows }
  | "1" => { s with layout := if s.isLong then .long else .lines }
  | "numeric-uid-gid" => { s with isNumeric := true, layout := .long }
  | "literal" => { s with names := .literal }
  | "hide-control-chars" => { s with hidesControls := true }
  | "show-control-chars" => { s with hidesControls := false }
  | "quote-name" => { s with names := .c }
  | "reverse" => { s with isReversed := true }
  | "recursive" => { s with isRecursive := true }
  | "size" => { s with showsBlocks := true }
  | "t" => { s with order? := some .time }
  | "S" => { s with order? := some .size }
  | "X" => { s with order? := some .ending }
  | "v" => { s with order? := some .version }
  | "U" => { s with order? := some .none }
  | "group-directories-first" => { s with directoriesFirst := true }
  | "full-time" =>
    { s with layout := .long, times := ("%Y-%m-%d %H:%M:%S.%N %z", "%Y-%m-%d %H:%M:%S.%N %z") }
  | "zero" =>
    { s with ending := '\x00', hidesControls := false, names := .literal, layout := if s.isLong then .long else .lines }
  | _ => s

/-- Takes an option. -/
def take (name : String) (s : ListStyle) (given : Given) : ToolM ListStyle :=
  match given with
  | (option, some text) => s.takeWith name option text
  | (option, none) => pure (s.takeFlag option)

end ListStyle

/-- The options of `ls`. -/
def listRules : List OptionRule :=
  [⟨"a", "all", .none⟩, ⟨"", "author", .none⟩, ⟨"A", "almost-all", .none⟩, ⟨"b", "escape", .none⟩,
   ⟨"B", "ignore-backups", .none⟩, ⟨"c", "", .none⟩, ⟨"C", "", .none⟩, ⟨"d", "directory", .none⟩,
   ⟨"D", "dired", .none⟩, ⟨"f", "", .none⟩, ⟨"F", "classify", .optional⟩, ⟨"", "file-type", .none⟩, ⟨"g", "", .none⟩,
   ⟨"G", "no-group", .none⟩, ⟨"h", "human-readable", .none⟩, ⟨"", "si", .none⟩,
   ⟨"H", "dereference-command-line", .none⟩, ⟨"", "dereference-command-line-symlink-to-dir", .none⟩,
   ⟨"", "hide", .required⟩, ⟨"", "hyperlink", .optional⟩, ⟨"i", "inode", .none⟩, ⟨"I", "ignore", .required⟩,
   ⟨"k", "kibibytes", .none⟩, ⟨"l", "", .none⟩, ⟨"L", "dereference", .none⟩, ⟨"m", "", .none⟩,
   ⟨"n", "numeric-uid-gid", .none⟩, ⟨"N", "literal", .none⟩, ⟨"o", "", .none⟩, ⟨"p", "", .none⟩,
   ⟨"q", "hide-control-chars", .none⟩, ⟨"", "show-control-chars", .none⟩, ⟨"Q", "quote-name", .none⟩,
   ⟨"", "quoting-style", .required⟩, ⟨"r", "reverse", .none⟩, ⟨"R", "recursive", .none⟩, ⟨"s", "size", .none⟩,
   ⟨"S", "", .none⟩, ⟨"", "sort", .required⟩, ⟨"", "time", .required⟩, ⟨"", "time-style", .required⟩,
   ⟨"", "full-time", .none⟩, ⟨"t", "", .none⟩, ⟨"T", "tabsize", .required⟩, ⟨"u", "", .none⟩, ⟨"U", "", .none⟩,
   ⟨"v", "", .none⟩, ⟨"w", "width", .required⟩, ⟨"x", "", .none⟩, ⟨"X", "", .none⟩, ⟨"Z", "context", .none⟩,
   ⟨"1", "", .none⟩, ⟨"", "color", .optional⟩, ⟨"", "group-directories-first", .none⟩, ⟨"", "zero", .none⟩,
   ⟨"", "block-size", .required⟩, ⟨"", "format", .required⟩, ⟨"", "indicator-style", .required⟩]

end Rebuild.Tool
