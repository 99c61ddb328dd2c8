import Rebuild.Tool.Amount
import Rebuild.Tool.Input

/-!
# Counting lines, words and bytes

`wc` prints what it counts in each file, and at the end what that makes together. The numbers have a common width, which
the sizes of the files decide.
-/

namespace Rebuild.Tool

open Text

/-- What is counted in a file. -/
structure Counts where
  lines : Nat
  words : Nat
  chars : Nat
  bytes : Nat
  longest : Nat

/-- The number of words: runs without blanks in which something can be printed. -/
def wordCount (cs : Line) : Nat :=
  ((cs.splitOnP isSpaceByte).filter (·.any isPrintableByte)).length

namespace Counts

/-- What is counted in bytes. -/
def of (bytes : ByteArray) : Counts :=
  let cs := charsOfBytes bytes
  let width (line : Line) : Nat := line.foldl (fun column c =>
    if c == '\t' then column + 8 - column % 8 else if isPrintableByte c then column + 1 else column) 0
  { lines := (cs.filter (· == '\n')).length
    words := wordCount cs
    chars := cs.length
    bytes := cs.length
    longest := ((cs.splitOnP fun c => c == '\n' || c == '\r' || c == '\x0c').map width).foldl max 0 }

/-- What two files have together. -/
def add (a b : Counts) : Counts :=
  ⟨a.lines + b.lines, a.words + b.words, a.chars + b.chars, a.bytes + b.bytes, max a.longest b.longest⟩

/-- The numbers that are asked for, in their order. -/
def numbers (c : Counts) (wanted : List String) : List Nat :=
  ([("lines", c.lines), ("words", c.words), ("chars", c.chars), ("bytes", c.bytes),
      ("max-line-length", c.longest)].filter
    fun number => wanted.contains number.1).map Prod.snd

/-- The line of a file. -/
def text (c : Counts) (wanted : List String) (width : Nat) (label : Option String) : String :=
  let label := match label with
    | some label => " " ++ (if label.toList.contains '\n' then shellQuotedIfNeeded label else label)
    | none => ""
  " ".intercalate ((c.numbers wanted).map fun n => padded width (toString n)) ++ label ++ "\n"

end Counts

/-- When the counts of all files together are printed. -/
inductive TotalStyle where
  | ifSeveral
  | always
  | only
  | never
deriving DecidableEq, Repr

/-- The names of these. -/
def totalStyles : List (String × TotalStyle) :=
  [("auto", .ifSeveral), ("always", .always), ("only", .only), ("never", .never)]

/-- The file that an operand leads to: its size if it is regular. -/
inductive CountedFile where
  | missing
  | regular (size : Nat)
  | other

/-- The file that an operand leads to. -/
def countedFile (p : Process) (operand : String) : CountedFile :=
  if operand == "-" then
    match p.file? 0 with
    | some (_, file) =>
      match file.channel with
      | .node number =>
        match (p.disk.nodes[number]?).bind fun node => (Disk.contentOf node).toOption with
        | some bytes => .regular bytes.size
        | none => .other
      | _ => .other
    | none => .missing
  else if !p.disk.isThere operand then .missing
  else
    match p.disk.read operand with
    | .ok bytes => .regular bytes.size
    | .error _ => .other

/-- The width of the numbers of files: that of the size of all together, and more if one has no size. -/
def countWidth (files : List CountedFile) : Nat :=
  let sizes := files.filterMap fun file => match file with
    | .regular size => some size
    | _ => none
  let hasOther := files.any fun file => match file with
    | .other => true
    | _ => false
  max (if hasOther then 7 else 1) (toString (sizes.foldl (· + ·) 0)).length

/-- The files that are counted, each with its label; a file may name them, with a zero byte after each. The name of that
file is told, and whether all were good so far. -/
def countedNames (name : String) (options : List Given) (operands : List String) :
    ToolM (List String × Option String) := do
  match argument? options "files0-from", operands with
  | none, operands => pure (orInput operands, none)
  | some _, operand :: _ =>
    complain name s!"extra operand {shellQuoted operand}"
    failWith "file operands cannot be combined with --files0-from"
  | some source, [] =>
    match ← readOperand source with
    | .error fault => fail name s!"cannot open {shellQuoted source} for reading: {fault.text}" 1
    | .ok bytes => pure ((linesOf '\x00' bytes).1.map ofByteChars, some source)
where
  /-- Says what is wrong without the name of the program, and where help is. -/
  failWith (text : String) : ToolM (List String × Option String) := do
    ExceptT.lift (Process.sayError s!"{text}\nTry '{name} --help' for more information.\n")
    quit 1

/-- Counts lines, words and bytes. -/
def wc : Tool := fun name args => do
  let rules : List OptionRule :=
    [⟨"c", "bytes", .none⟩, ⟨"m", "chars", .none⟩, ⟨"l", "lines", .none⟩, ⟨"L", "max-line-length", .none⟩,
     ⟨"w", "words", .none⟩, ⟨"", "debug", .none⟩, ⟨"", "files0-from", .required⟩, ⟨"", "total", .required⟩]
  let ((options, totals), operands) ← foldOptions name rules false 1 args (([] : List Given), TotalStyle.ifSeveral)
    fun (options, totals) given => do
      if given.1 == "total" then
        pure (options, ← readChoice name "--total" 1 totalStyles (given.2.getD ""))
      else pure (given :: options, totals)
  let wanted := ["lines", "words", "chars", "bytes", "max-line-length"].filter (has options)
  let wanted := if wanted.isEmpty then ["lines", "words", "bytes"] else wanted
  let (names, source?) ← countedNames name options operands
  let p ← getThe Process
  let width := if totals == .only || names.isEmpty || (names.length == 1 && wanted.length == 1) then 1
    else countWidth (names.map (countedFile p))
  let mut code := 0
  let mut sum : Counts := ⟨0, 0, 0, 0, 0⟩
  for (operand, i) in names.zipIdx do
    let label := if operands.isEmpty && source?.isNone then none else some operand
    if source? == some "-" && operand == "-" then
      complain name s!"when reading file names from stdin, no file name of {shellQuoted operand} allowed"
      code := 1
    else if operand.isEmpty then
      let place := match source? with
        | some source => s!"{shellQuotedIfNeeded source}:{i + 1}: "
        | none => ""
      complain name (place ++ "invalid zero-length file name")
      code := 1
    else
      match ← readOperand operand with
      | .ok bytes =>
        let c := Counts.of bytes
        sum := sum.add c
        if totals != .only then say name (c.text wanted width label)
      | .error fault =>
        complain name (plainComplaint operand fault)
        if fault == .isDirectory && totals != .only then say name (Counts.text ⟨0, 0, 0, 0, 0⟩ wanted width label)
        code := 1
  let hasTotal : Bool := match totals with
    | .ifSeveral => 1 < names.length
    | .never => false
    | _ => true
  if hasTotal then say name (sum.text wanted width (if totals == .only then none else some "total"))
  pure code

end Rebuild.Tool
