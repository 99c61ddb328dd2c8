import Rebuild.Tool.Amount
import Rebuild.Tool.Order

/-!
# Sorting

`sort` prints the lines of its files in the order of keys, and where these are alike in that of their bytes. It can also
merge files that are sorted, or tell whether a file is.
-/

namespace Rebuild.Tool

open Text

/-- How lines are sorted. -/
structure SortStyle where
  keys : List SortKey := []
  /-- How lines are compared where no key says it. -/
  common : SortKey := {}
  separator? : Option Char := none
  isUnique : Bool := false
  isStable : Bool := false
  merges : Bool := false
  /-- The letter of the check that is made instead of sorting. -/
  check? : Option Char := none
  output? : Option String := none
  list? : Option String := none
  ending : Char := '\n'

namespace SortStyle

/-- Compares lines by their keys. -/
def compareKeys (s : SortStyle) (a b : Line) : Ordering :=
  s.keys.foldl (fun result k =>
    if result != .eq then result else k.compare (k.part s.separator? a) (k.part s.separator? b)) .eq

/-- Compares lines by their keys, and then as a whole where that counts. -/
def compare (s : SortStyle) (a b : Line) : Ordering :=
  let byKeys := s.compareKeys a b
  if byKeys != .eq || (!s.keys.isEmpty && (s.isUnique || s.isStable)) then byKeys
  else
    let whole := compareBytes a b
    if s.common.isReverse then whole.swap else whole

/-- Lines of which those that are like the one before them are left out. -/
def withoutRepeats (s : SortStyle) (lines : List Line) : List Line :=
  (lines.foldl (fun (kept : List Line) line =>
    if kept.head?.any fun last => s.compare last line == .eq then kept else line :: kept) []).reverse

/-- Lists of lines merged into one. -/
def merged (s : SortStyle) (lists : List (List Line)) : List Line :=
  lists.foldl (fun all lines => all.merge lines fun a b => s.compare a b != .gt) []

/-- The lines of files in their order. -/
def sorted (s : SortStyle) (files : List (List Line)) : List Line :=
  let lines := if s.merges then s.merged files else files.flatten.mergeSort fun a b => s.compare a b != .gt
  if s.isUnique then s.withoutRepeats lines else lines

/-- The first line that is not in order, with its number. -/
def disorder? (s : SortStyle) (lines : List Line) : Option (Line × Nat) :=
  let isWrong (a b : Line) : Bool :=
    let result := s.compare a b
    result == .gt || (s.isUnique && result == .eq)
  (((lines.zip (lines.drop 1)).zipIdx.find? fun pair => isWrong pair.1.1 pair.1.2)).map fun pair =>
    (pair.1.2, pair.2 + 2)

/-- How lines are sorted once all options are known: a key that says nothing of its own is compared in the common
way. -/
def finished (s : SortStyle) : SortStyle :=
  let keys := s.keys.map fun k => if k.isUsual && !k.isReverse then k.comparedAs s.common else k
  { s with keys := if keys.isEmpty && !s.common.isUsual then [s.common] else keys }

end SortStyle

/-! ## Keys as they are written -/

/-- The number at the beginning of a text and what follows it; a number that is too large is as large as can be. -/
def keyNumber? (cs : List Char) : Option (Nat × List Char) :=
  let rest := cs.dropWhile isSpaceByte
  let rest := if rest.head? == some '+' then rest.drop 1 else rest
  let digits := rest.takeWhile Char.isDigit
  if digits.isEmpty then none else some (decimalValue digits, rest.drop digits.length)

/-- The number at the beginning of a part of a key. -/
def readKeyNumber (name complaint : String) (cs : List Char) : ToolM (Nat × List Char) := do
  match keyNumber? cs with
  | some found => pure found
  | none => fail name s!"{complaint}: invalid count at start of {plainlyQuoted (String.ofList cs)}" 2

/-- The key that a text says. -/
def readKey (name text : String) : ToolM SortKey := do
  let refuse (complaint : String) : ToolM Unit :=
    fail name s!"{complaint}: invalid field specification {plainlyQuoted text}" 2
  let (field, rest) ← readKeyNumber name "invalid number at field start" text.toList
  if field == 0 then refuse "field number is zero"
  let (char, rest) ← match rest with
    | '.' :: rest => readKeyNumber name "invalid number after '.'" rest
    | rest => pure (1, rest)
  if char == 0 then refuse "character offset is zero"
  let start : SortKey := { firstField := field - 1, firstChar := char - 1 }
  let (k, rest) := start.withLetters .first rest
  match rest with
  | ',' :: rest =>
    let (field, rest) ← readKeyNumber name "invalid number after ','" rest
    if field == 0 then refuse "field number is zero"
    let (char, rest) ← match rest with
      | '.' :: rest => readKeyNumber name "invalid number after '.'" rest
      | rest => pure (0, rest)
    let (k, rest) := { k with lastField := some (field - 1), lastChar := char }.withLetters .last rest
    unless rest.isEmpty do refuse "stray character in field spec"
    pure k
  | rest =>
    unless rest.isEmpty do refuse "stray character in field spec"
    pure k

/-- The key that an operand with a plus says by the fields and characters before it, if it does. -/
def oldKey? (word : String) : Option SortKey := do
  let rest ← if word.startsWith "+" then some (word.toList.drop 1) else none
  let (field, rest) ← keyNumber? rest
  let (char, rest) ← match rest with
    | '.' :: rest => keyNumber? rest
    | rest => some (0, rest)
  let start : SortKey := { firstField := field, firstChar := char }
  let (k, rest) := start.withLetters .first rest
  if rest.isEmpty then some k else none

/-- A key that ends where a word with a dash says, by the fields and characters before its end. -/
def endOldKey (name : String) (k : SortKey) (word : String) : ToolM SortKey := do
  let (field, rest) ← readKeyNumber name "invalid number after '-'" (word.toList.drop 1)
  let (char, rest) ← match rest with
    | '.' :: rest => readKeyNumber name "invalid number after '.'" rest
    | rest => pure (0, rest)
  let last := if char == 0 then (if field == 0 then none else some (field - 1)) else some field
  let ended : SortKey := { k with lastField := last.orElse fun _ => some 0, lastChar := char }
  let (k, rest) := ended.withLetters .last rest
  unless rest.isEmpty do fail name s!"stray character in field spec: invalid field specification {plainlyQuoted word}" 2
  pure k

/-- Words in which keys that are written with signs have become options. -/
def withOldKeys (name : String) : List String → ToolM (List SortKey × List String)
  | [] => pure ([], [])
  | "--" :: rest => pure ([], "--" :: rest)
  | word :: next :: rest => do
    match oldKey? word with
    | none =>
      let (keys, words) ← withOldKeys name (next :: rest)
      pure (keys, word :: words)
    | some k =>
      if next.startsWith "-" && (next.toList.drop 1).head?.any Char.isDigit then
        let k ← endOldKey name k next
        let (keys, words) ← withOldKeys name rest
        pure (k :: keys, words)
      else
        let (keys, words) ← withOldKeys name (next :: rest)
        pure (k :: keys, words)
  | [word] =>
    match oldKey? word with
    | some k => pure ([k], [])
    | none => pure ([], [word])

/-! ## Options -/

/-- The letters of the orders by their names. -/
def orderNames : List (String × Char) :=
  [("general-numeric", 'g'), ("human-numeric", 'h'), ("month", 'M'), ("numeric", 'n'), ("random", 'R'),
   ("version", 'V')]

/-- The letters of options that say how lines are compared, by their names. -/
def orderOptions : List (String × Char) :=
  [("ignore-leading-blanks", 'b'), ("dictionary-order", 'd'), ("ignore-case", 'f'), ("general-numeric-sort", 'g'),
   ("human-numeric-sort", 'h'), ("ignore-nonprinting", 'i'), ("month-sort", 'M'), ("numeric-sort", 'n'),
   ("random-sort", 'R'), ("reverse", 'r'), ("version-sort", 'V')]

/-- Complains of options that exclude each other. -/
def refuseOptions (name letters : String) : ToolM Unit :=
  fail name s!"options '-{letters}' are incompatible" 2

/-- The separator of fields that a text is. -/
def readFieldSeparator (name : String) (code : Nat) (before? : Option Char) (text : String) : ToolM Char := do
  let c ← match byteChars text with
    | [] => fail name "empty tab" code
    | [c] => pure c
    | ['\\', '0'] => pure '\x00'
    | _ => fail name s!"multi-character tab {plainlyQuoted text}" code
  if before?.any (· != c) then fail name "incompatible tabs" code
  pure c

/-- Takes an option of `sort`. -/
def sortOption (name : String) (s : SortStyle) (given : Given) : ToolM SortStyle := do
  let text := given.2.getD ""
  let withLetter (c : Char) : SortStyle := { s with common := (s.common.withLetter? .both c).getD s.common }
  let checking (c : Char) : ToolM SortStyle := do
    if s.check?.any (· != c) then refuseOptions name "cC"
    pure { s with check? := some c }
  match given.1 with
  | "sort" => pure (withLetter (← readChoice name "--sort" 2 orderNames text))
  | "check" =>
    match given.2 with
    | none => checking 'c'
    | some text =>
      checking (← readChoice name "--check" 2 [("quiet", 'C'), ("silent", 'C'), ("diagnose-first", 'c')] text)
  | "c" => checking 'c'
  | "C" => checking 'C'
  | "key" => pure { s with keys := s.keys ++ [← readKey name text] }
  | "merge" => pure { s with merges := true }
  | "output" =>
    if s.output?.any (· != text) then fail name "multiple output files specified" 2
    pure { s with output? := some text }
  | "stable" => pure { s with isStable := true }
  | "unique" => pure { s with isUnique := true }
  | "zero-terminated" => pure { s with ending := '\x00' }
  | "files0-from" => pure { s with list? := some text }
  | "field-separator" => pure { s with separator? := some (← readFieldSeparator name 2 s.separator? text) }
  | option =>
    match orderOptions.lookup option with
    | some c => pure (withLetter c)
    | none => pure s

/-- The options of `sort`. -/
def sortRules : List OptionRule :=
  [⟨"b", "ignore-leading-blanks", .none⟩, ⟨"d", "dictionary-order", .none⟩, ⟨"f", "ignore-case", .none⟩,
   ⟨"g", "general-numeric-sort", .none⟩, ⟨"h", "human-numeric-sort", .none⟩, ⟨"i", "ignore-nonprinting", .none⟩,
   ⟨"M", "month-sort", .none⟩, ⟨"n", "numeric-sort", .none⟩, ⟨"R", "random-sort", .none⟩, ⟨"r", "reverse", .none⟩,
   ⟨"V", "version-sort", .none⟩, ⟨"", "sort", .required⟩, ⟨"", "check", .optional⟩, ⟨"c", "", .none⟩, ⟨"C", "", .none⟩,
   ⟨"", "debug", .none⟩, ⟨"", "files0-from", .required⟩, ⟨"k", "key", .required⟩, ⟨"m", "merge", .none⟩,
   ⟨"", "batch-size", .required⟩, ⟨"o", "output", .required⟩, ⟨"", "random-source", .required⟩, ⟨"s", "stable", .none⟩,
   ⟨"S", "buffer-size", .required⟩, ⟨"t", "field-separator", .required⟩, ⟨"T", "temporary-directory", .required⟩,
   ⟨"", "compress-program", .required⟩, ⟨"", "parallel", .required⟩, ⟨"u", "unique", .none⟩,
   ⟨"z", "zero-terminated", .none⟩]

/-- The files that are sorted: the operands, or those that a file names, with a zero byte after each. -/
def sortedNames (name : String) (s : SortStyle) (operands : List String) : ToolM (List String) := do
  match s.list?, operands with
  | none, operands => pure (orInput operands)
  | some _, operand :: _ =>
    complain name s!"extra operand {shellQuoted operand}"
    ExceptT.lift (Process.sayError ("file operands cannot be combined with --files0-from\n" ++
      s!"Try '{name} --help' for more information.\n"))
    quit 2
  | some source, [] =>
    match ← readOperand source with
    | .error fault => fail name s!"open failed: {plainComplaint source fault}" 2
    | .ok bytes =>
      let names := (linesOf '\x00' bytes).1.map ofByteChars
      if names.isEmpty then fail name s!"no input from {shellQuoted source}" 2
      for (operand, i) in names.zipIdx do
        if operand == "-" then
          fail name s!"when reading file names from stdin, no file name of {shellQuoted operand} allowed" 2
        if operand.isEmpty then
          fail name s!"{shellQuotedIfNeeded source}:{i + 1}: invalid zero-length file name" 2
      pure names

/-! ## Sorting -/

/-- The lines of a file that is sorted. -/
def readSorted (name : String) (s : SortStyle) (operand : String) : ToolM (List Line) := do
  match ← readOperand operand with
  | .error fault =>
    let complaint := if fault == .isDirectory then "read failed" else "open failed"
    fail name s!"{complaint}: {plainComplaint operand fault}" 2
  | .ok bytes => pure (linesOf s.ending bytes).1

/-- Tells whether a file is sorted. -/
def checkSorted (name : String) (s : SortStyle) (letter : Char) (operands : List String) : ToolM Nat := do
  match operands with
  | _ :: extra :: _ => fail name s!"extra operand {shellQuoted extra} not allowed with -{letter}" 2
  | _ => pure ()
  if s.output?.isSome then refuseOptions name (letter.toString ++ "o")
  let operand := operands.headD "-"
  match s.disorder? (← readSorted name s operand) with
  | none => pure 0
  | some (line, number) =>
    if letter == 'c' then complain name (s!"{operand}:{number}: disorder: " ++ ofByteChars line)
    pure 1

/-- Prints lines in order. -/
def sort : Tool := fun name args => do
  let (oldKeys, args) ← withOldKeys name args
  let (s, operands) ← foldOptions name sortRules false 2 args { keys := oldKeys } (sortOption name)
  let names ← sortedNames name s operands
  let s := s.finished
  match s.keys.findSome? SortKey.conflict? with
  | some letters => refuseOptions name letters
  | none => pure ()
  match s.check? with
  | some letter => checkSorted name s letter names
  | none =>
    for operand in names do
      if operand != "-" then
        match (← disk).get operand with
        | .error fault => fail name s!"cannot read: {plainComplaint operand fault}" 2
        | .ok _ => pure ()
    match s.output? with
    | none => pure ()
    | some path =>
      match ← openOperand path with
      | .ok () => pure ()
      | .error fault => fail name s!"open failed: {plainComplaint path fault}" 2
    let files ← names.mapM (readSorted name s)
    let bytes := bytesOfLines s.ending (s.sorted files)
    match s.output? with
    | none => put name bytes
    | some path =>
      match ← writeOperand path bytes with
      | .ok () => pure ()
      | .error fault => fail name s!"open failed: {plainComplaint path fault}" 2
    pure 0

end Rebuild.Tool
