import Rebuild.Text.Printf
import Rebuild.Tool.Amount
import Rebuild.Tool.Input

/-!
# Comparing bytes

`cmp` tells the first byte in which two files differ, or all of them, and whether one file ends before the other. A
count of bytes may be written to the base ten, or to another one that it begins with.
-/

namespace Rebuild.Tool

open Text

/-- Complains, says where help is after the name of the program, and ends. -/
def failInComparison (name text : String) : ToolM α := do
  complain name text
  complain name s!"Try '{name} --help' for more information."
  quit 2

/-- A byte as it is shown: with marks for those that cannot be printed. -/
def shownByte (c : Char) : String :=
  let plain (n : Nat) : String :=
    if n < 32 then "^" ++ (Char.ofNat (n + 64)).toString
    else if n == 127 then "^?"
    else (Char.ofNat n).toString
  if c.toNat < 128 then plain c.toNat else "M-" ++ plain (c.toNat - 128)

/-- A byte in octal digits. -/
def octalByte (c : Char) : String :=
  padded 3 (String.ofList (Nat.toDigits 8 c.toNat))

/-- A text in which the digits at the beginning are to the base ten, if a zero makes them octal or hexadecimal. -/
def decimalText (text : String) : String :=
  match Printing.digitsAt text.toList with
  | some (n, rest) => toString n ++ String.ofList rest
  | none => text

/-- What is told of two files. -/
inductive ByteReport where
  /-- The first difference. -/
  | first
  | every
  | nothing
deriving DecidableEq, Repr

/-- How bytes are compared. -/
structure ByteStyle where
  report : ByteReport := .first
  showsBytes : Bool := false
  /-- How many bytes at the beginning of the files are left out. -/
  skips : Nat × Nat := (0, 0)
  /-- How many bytes are compared at most. -/
  limit? : Option Nat := none

namespace ByteStyle

/-- Chooses what is told, which may not be chosen in two ways. -/
def choose (name : String) (s : ByteStyle) (report : ByteReport) : ToolM ByteStyle := do
  if s.report != .first && s.report != report then failInComparison name "options -l and -s are incompatible"
  pure { s with report }

/-- The count of bytes that an argument is. -/
def count (name option text : String) : ToolM Nat := do
  match amountOf "kKMGTPEZY0" 0 greatestInteger (decimalText text) with
  | .ok n => pure n.toNat
  | .error _ => failInComparison name s!"invalid --{option} value '{text}'"

/-- Leaves out at least so many bytes. -/
def skip (s : ByteStyle) (first second : Nat) : ByteStyle :=
  { s with skips := (max s.skips.1 first, max s.skips.2 second) }

/-- Takes an option. -/
def take (name : String) (s : ByteStyle) (given : Given) : ToolM ByteStyle := do
  match given with
  | ("verbose", _) => s.choose name .every
  | ("quiet", _) | ("silent", _) => s.choose name .nothing
  | ("bytes", some text) => do
    let n ← count name "bytes" text
    pure { s with limit? := some (min n (s.limit?.getD n)) }
  | ("ignore-initial", some text) => do
    let before := String.ofList (text.toList.takeWhile (· != ':'))
    if before == text then
      let n ← count name "ignore-initial" text
      pure (s.skip n n)
    else
      let first ← match amountOf "kKMGTPEZY0" 0 greatestInteger (decimalText before) with
        | .ok n => pure n.toNat
        | .error _ => count name "ignore-initial" text
      let second ← count name "ignore-initial" (text.drop (before.length + 1)).toString
      pure (s.skip first second)
  | _ => pure { s with showsBytes := true }

/-- The line that tells of a difference at a place, which is counted from zero. -/
def line (s : ByteStyle) (width place : Nat) (x y : Char) : String :=
  let start := padded width (toString (place + 1)) ++ " " ++ octalByte x ++ " "
  if s.showsBytes then
    start ++ shownByte x ++ String.ofList (List.replicate (5 - (shownByte x).length) ' ') ++ octalByte y ++ " " ++
      shownByte y ++ "\n"
  else start ++ octalByte y ++ "\n"

end ByteStyle

/-- Where two files differ, in the bytes that both have. -/
def differingPlaces (a b : List Char) : List (Nat × Char × Char) :=
  ((a.zip b).zipIdx.filter fun ((x, y), _) => x != y).map fun ((x, y), i) => (i, x, y)

/-- The wording of where a file ends before another one. -/
def endText (path : String) (bytes : List Char) (isLong : Bool) : String :=
  let lines := bytes.count '\n'
  let line := if bytes.getLast? == some '\n' then s!", line {lines}" else s!", in line {lines + 1}"
  if bytes.isEmpty then s!"EOF on {path} which is empty"
  else s!"EOF on {path} after byte {bytes.length}" ++ (if isLong then "" else line)

/-- How many bytes of a file there are after some that are left out, if it is known before they are read. -/
def knownSize? (path : String) (skip : Nat) : ToolM (Option Nat) := do
  let p ← getThe Process
  let number? := if path == "-" then
      (p.file? 0).bind fun (_, file) => match file.channel with
        | .node number => some (number, file.position)
        | _ => none
    else ((p.disk.find path).toOption.bind p.disk.number?).map (·, 0)
  pure do
    let (number, position) ← number?
    match (← p.disk.nodes[number]?).item with
    | .file bytes => some (bytes.size - (position + skip))
    | _ => none

/-- Compares two files byte by byte. -/
def compareFiles (name : String) (s : ByteStyle) (first second : String) : ToolM Nat := do
  for path in if second == "-" then [second, first] else [first, second] do
    if path != "-" then
      match (← disk).get path with
      | .error fault => if s.report == .nothing then quit 2 else fail name s!"{path}: {fault.text}" 2
      | .ok _ => pure ()
    else pure ()
  if first == second && s.skips.1 == s.skips.2 then quit 0
  let width := (toString ([s.limit?, ← knownSize? first s.skips.1, ← knownSize? second s.skips.2].foldl
    (fun least size? => min least (size?.getD least)) greatestInteger.toNat)).length
  let read (path : String) (skip : Nat) : ToolM (List Char) := do
    match ← readOperand path with
    | .ok bytes =>
      let cs := (charsOfBytes bytes).drop skip
      pure ((s.limit?.map cs.take).getD cs)
    | .error fault =>
      if s.report == .nothing && fault == .denied then quit 2 else fail name s!"{path}: {fault.text}" 2
  let a ← read first s.skips.1
  let b ← read second s.skips.2
  let places := differingPlaces a b
  if !places.isEmpty && s.report != .every || s.limit?.any (· ≤ min a.length b.length) then haveEnough
  match s.report, places with
  | .nothing, _ => quit (if places.isEmpty && a.length == b.length then 0 else 1)
  | .every, _ => for (i, x, y) in places do say name (s.line width i x y)
  | .first, (i, x, y) :: _ =>
    let line := (a.take i).count '\n' + 1
    if s.showsBytes then
      let bytes := s!"{octalByte x} {shownByte x} {octalByte y} {shownByte y}"
      say name s!"{first} {second} differ: byte {i + 1}, line {line} is {bytes}\n"
    else say name s!"{first} {second} differ: char {i + 1}, line {line}\n"
    quit 1
  | .first, [] => pure ()
  let isLong := s.report == .every
  if a.length < b.length then complain name (endText first a isLong)
  if b.length < a.length then complain name (endText second b isLong)
  pure (if places.isEmpty && a.length == b.length then 0 else 1)

/-- Compares two files, or a file with the input. -/
def cmp : Tool := fun name args => do
  let rules : List OptionRule :=
    [⟨"b", "print-bytes", .none⟩, ⟨"c", "print-chars", .none⟩, ⟨"i", "ignore-initial", .required⟩,
     ⟨"l", "verbose", .none⟩, ⟨"n", "bytes", .required⟩, ⟨"s", "quiet", .none⟩, ⟨"", "silent", .none⟩]
  let (s, operands) ← match optionsOf (rules ++ helpRules ++ [⟨"v", "", .none⟩]) false args with
    | .error fault => failInComparison name fault.text
    | .ok (options, operands) => do
      if has options "help" || has options "version" || has options "v" then quit 0
      pure (← options.foldlM (ByteStyle.take name) {}, operands)
  match operands with
  | [] => failInComparison name s!"missing operand after '{args.getLast?.getD name}'"
  | first :: rest =>
    let counts := (rest.drop 1).take 2
    let s ← match counts with
      | [] => pure s
      | one :: others => do
        let s := s.skip (← ByteStyle.count name "ignore-initial" one) 0
        match others with
        | [] => pure s
        | two :: _ => pure (s.skip 0 (← ByteStyle.count name "ignore-initial" two))
    match rest[3]? with
    | some extra => failInComparison name s!"extra operand '{extra}'"
    | none => compareFiles name s first (rest.headD "-")

end Rebuild.Tool
