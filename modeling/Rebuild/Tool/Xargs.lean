import Rebuild.Tool.Starting

/-!
# Arguments from the input

`xargs` reads arguments and runs a program with them, as many at a time as it may. Blanks and line ends divide the
arguments, if no other character is given for that; quotes and backslashes keep them from it.
-/

namespace Rebuild.Tool.Xargs

open Text

/-- An argument that was read, and whether it is the last of a line. -/
structure Argument where
  text : List Char
  endsLine : Bool

/-- What was read: the arguments, and the quote that is not closed, if there is one. -/
structure Reading where
  arguments : List Argument
  openQuote : Option Char

/-- The state of a reader within an argument. -/
structure Partial where
  /-- The characters, the last first; none outside an argument. -/
  current : Option (List Char)
  quote : Option Char
  /-- Whether the last character was a blank. -/
  afterBlank : Bool

/-- The arguments in a text, the last first, after those that were read. Whole lines are taken if that is asked for. -/
def readMarked (byLine : Bool) (read : List Argument) (p : Partial) : List Char → Reading
  | [] =>
    match p.quote, p.current with
    | some quote, _ => ⟨read, some quote⟩
    | none, some text => ⟨⟨text.reverse, true⟩ :: read, none⟩
    | none, none => ⟨read, none⟩
  | c :: rest =>
    let add (c : Char) : Partial := ⟨some (c :: p.current.getD []), p.quote, c == ' ' || c == '\t'⟩
    match p.quote with
    | some quote =>
      if c == '\n' then ⟨read, some quote⟩
      else if c == quote then readMarked byLine read { p with quote := none, afterBlank := false } rest
      else readMarked byLine read (add c) rest
    | none =>
      let isBlank := c == ' ' || ('\t' ≤ c && c ≤ '\r')
      match p.current with
      | none =>
        if isBlank then readMarked byLine read p rest
        else begun byLine read p c rest
      | some text =>
        if c == '\n' || (isBlank && !byLine) then
          readMarked byLine (⟨text.reverse, c == '\n' && !p.afterBlank⟩ :: read) ⟨none, none, isBlank⟩ rest
        else begun byLine read p c rest
where
  /-- Takes a character of an argument. -/
  begun (byLine : Bool) (read : List Argument) (p : Partial) (c : Char) (rest : List Char) : Reading :=
    if c == '"' || c == '\'' then readMarked byLine read ⟨some (p.current.getD []), some c, false⟩ rest
    else
      match c, rest with
      | '\\', d :: rest => readMarked byLine read ⟨some (d :: p.current.getD []), none, false⟩ rest
      | '\\', [] => readMarked byLine read ⟨some (p.current.getD []), none, false⟩ []
      | c, rest => readMarked byLine read ⟨some (c :: p.current.getD []), none, c == ' ' || c == '\t'⟩ rest

/-- The arguments in a text that a character divides. -/
def readDivided (mark : Char) (cs : List Char) : List Argument :=
  let pieces := cs.splitOnP (· == mark)
  let pieces := if pieces.getLast? == some [] then pieces.dropLast else pieces
  pieces.map fun text => ⟨text, true⟩

/-- How arguments are put together to commands. -/
inductive Division where
  /-- As many as fit. -/
  | free
  /-- At most so many arguments. -/
  | count (n : Nat)
  /-- The arguments of at most so many lines. -/
  | lines (n : Nat)
  /-- Each by itself, in the place of a pattern. -/
  | each (pattern : String)
deriving DecidableEq, Repr

namespace Division

/-- The name of the option that asks for a division. -/
def optionName : Division → String
  | .free => ""
  | .count _ => "--max-args"
  | .lines _ => "--max-lines"
  | .each _ => "--replace"

/-- Whether so many arguments and lines make up a command. -/
def isComplete (d : Division) (arguments lines : Nat) : Bool :=
  match d with
  | .free => false
  | .count n => n ≤ arguments
  | .lines n => n ≤ lines
  | .each _ => true

/-- The division after another one is asked for, and the complaint about that. -/
def next (before : Division) (option : String) (after : Division) : Division × Option String :=
  let warning := s!"warning: options {before.optionName} and {option} are mutually exclusive, " ++
    s!"ignoring previous {before.optionName} value"
  match before, after with
  | .each pattern, .count 1 => (.each pattern, none)
  | .free, after => (after, none)
  | .count _, .count n => (.count n, none)
  | .lines _, .lines n => (.lines n, none)
  | .each _, .each pattern => (.each pattern, none)
  | _, after => (after, some warning)

end Division

/-- The groups of arguments for which a program is run, the last one first, each with the last argument first; none if
an argument is too long for the most bytes that a command may have. -/
def grouped (division : Division) (most start : Nat) (groups : List (List (List Char)))
    (group : List (List Char)) (size lines : Nat) :
    List Argument → Option (List (List (List Char)))
  | [] => some (if group.isEmpty then groups else group :: groups)
  | a :: rest =>
    let cost := a.text.length + 1
    if most < start + cost then none
    else
      let isFull := !group.isEmpty && most < size + cost
      let (groups, group, size, lines) :=
        if isFull then (group :: groups, [], start, 0) else (groups, group, size, lines)
      let group := a.text :: group
      let lines := if a.endsLine then lines + 1 else lines
      if division.isComplete group.length lines then grouped division most start (group :: groups) [] start 0 rest
      else grouped division most start groups group (size + cost) lines rest

/-- A text in which another one stands wherever a pattern stood. -/
def replaced (limit : Nat) (pattern new : List Char) (cs : List Char) : List Char :=
  match limit, cs with
  | limit + 1, c :: rest =>
    if !pattern.isEmpty && pattern.isPrefixOf (c :: rest) then
      new ++ replaced limit pattern new ((c :: rest).drop pattern.length)
    else c :: replaced limit pattern new rest
  | _, cs => cs

/-- The character that the argument of an option stands for. -/
def mark? (text : String) : Option Char :=
  match byteChars text with
  | [c] => some c
  | ['\\', 'n'] => some '\n'
  | ['\\', 't'] => some '\t'
  | ['\\', 'r'] => some '\r'
  | ['\\', '0'] => some '\x00'
  | ['\\', '\\'] => some '\\'
  | _ => none

/-- The options of `xargs`. -/
def rules : List OptionRule :=
  [⟨"0", "null", .none⟩, ⟨"a", "arg-file", .required⟩, ⟨"d", "delimiter", .required⟩, ⟨"E", "", .required⟩,
   ⟨"e", "eof", .optional⟩, ⟨"I", "", .required⟩, ⟨"i", "replace", .optional⟩, ⟨"L", "", .required⟩,
   ⟨"l", "max-lines", .optional⟩, ⟨"n", "max-args", .required⟩, ⟨"o", "open-tty", .none⟩, ⟨"P", "max-procs", .required⟩,
   ⟨"r", "no-run-if-empty", .none⟩, ⟨"s", "max-chars", .required⟩, ⟨"t", "verbose", .none⟩, ⟨"x", "exit", .none⟩]

end Xargs

open Xargs

section Starting

variable (launch : Launcher)

/-- Runs a program and tells what that adds to the exit code, and whether nothing more is to be run. -/
def runForArguments (name : String) (isShown : Bool) (words : List String) : ToolM (Nat × Bool) := do
  if isShown then
    ExceptT.lift (Process.sayError (" ".intercalate (words.map Text.shellWord) ++ "\n"))
  let program := words.headD ""
  let (file, p) := (← get).openChannel .null .read
  set p
  match ← ExceptT.lift (Process.withStream 0 (some file) (startNamed launch words)) with
  | .error fault =>
    complain name s!"{program}: {fault.text}"
    pure (startingCode fault, true)
  | .ok (.exited 0) => pure (0, false)
  | .ok (.exited 255) =>
    complain name s!"{program}: exited with status 255; aborting"
    pure (124, true)
  | .ok (.exited 126) => pure (126, true)
  | .ok (.exited 127) => pure (127, true)
  | .ok (.exited _) => pure (123, false)
  | .ok (.terminated signal) =>
    complain name s!"{program}: terminated by signal {signal.getD 0}"
    pure (125, true)

/-- Runs a program with arguments from the input. -/
def xargs : Tool := fun name args => do
  let (options, operands) ← readOptions name rules true 1 args
  let words := if operands.isEmpty then ["echo"] else operands
  let number (letter text : String) (least : Nat) : ToolM Nat := do
    match natural? text with
    | none => failWithHelp name ("invalid number \"" ++ text ++ "\"" ++ s!" for -{letter} option") 1
    | some n =>
      if n < least then failWithHelp name s!"value {n} for -{letter} option should be >= {least}" 1 else pure n
  let mut division : Division := .free
  let mut most := 131072
  for (option, argument) in options do
    let text := argument.getD ""
    let asked : Option (String × Division) ← match option with
      | "max-args" => do pure (some ("--max-args/-n", .count (← number "n" text 1)))
      | "L" => do pure (some ("-L", .lines (← number "L" text 1)))
      | "max-lines" => do pure (some ("--max-lines/-l", .lines (← number "l" (argument.getD "1") 1)))
      | "I" => pure (some ("--replace/-I/-i", .each text))
      | "replace" => pure (some ("--replace/-I/-i", .each (argument.getD "\x7b\x7d")))
      | _ => pure none
    match asked with
    | none => pure ()
    | some (optionName, after) =>
      let (chosen, warning) := division.next optionName after
      division := chosen
      match warning with
      | some text => complain name text
      | none => pure ()
    if option == "max-chars" then most := ← number "s" text 1
    if option == "max-procs" then let _ ← number "P" text 0
  let marks : List Given := options.filter fun o => ["null", "delimiter"].contains o.1
  let divider : Option Char ← match marks.getLast? with
    | none => pure none
    | some ("null", _) => pure (some '\x00')
    | some (_, text) =>
      match mark? (text.getD "") with
      | some c => pure (some c)
      | none =>
        fail name ("Invalid input delimiter specification " ++ text.getD "" ++ ": the delimiter must be either a " ++
          "single character or an escape sequence starting with \\.") 1
  let pattern : Option String := match division with
    | .each pattern => some pattern
    | _ => none
  let stop : Option String := if has options "E" then argument? options "E" else argument? options "eof"
  let operand := (argument? options "arg-file").getD "-"
  let bytes ← match ← readOperand operand with
    | .ok bytes => pure bytes
    | .error fault => fail name s!"Cannot open input file {Text.shellQuoted operand}: {fault.text}" 1
  let cs := Text.charsOfBytes bytes
  let reading : Reading := match divider with
    | some mark => ⟨readDivided mark cs, none⟩
    | none =>
      let r := readMarked pattern.isSome [] ⟨none, none, true⟩ cs
      { r with arguments := r.arguments.reverse }
  let isWanted (a : Argument) : Bool :=
    divider.isSome || stop.all fun text => text.isEmpty || a.text != Text.byteChars text
  let arguments := reading.arguments.takeWhile isWanted
  let start := words.foldl (fun n word => n + Text.byteLength word + 1) 0
  let commands : List (List String) ← match pattern with
    | some pattern =>
      pure (arguments.map fun a =>
        words.take 1 ++ (words.drop 1).map fun word =>
          let cs := Text.byteChars word
          Text.ofByteChars (replaced cs.length (Text.byteChars pattern) a.text cs))
    | none =>
      match grouped division most start [] [] start 0 arguments with
      | none => fail name "argument line too long" 1
      | some [] =>
        pure (if has options "no-run-if-empty" || reading.openQuote.isSome then [] else [words])
      | some groups =>
        pure (groups.reverse.map fun group => words ++ group.reverse.map Text.ofByteChars)
  let mut code := 0
  for command in commands do
    let (added, isOver) ← runForArguments launch name (has options "verbose") command
    if isOver then quit added
    code := max code added
  match reading.openQuote with
  | some quote =>
    let kind := if quote == '"' then "double" else "single"
    fail name s!"unmatched {kind} quote; by default quotes are special to xargs unless you use the -0 option" 1
  | none => pure code

end Starting

end Rebuild.Tool
