import Rebuild.Text.Regex.Parser
import Rebuild.Tool.Input

/-!
# Programs that print files

They print their input as it is, to several places, or in another order.
-/

namespace Rebuild.Tool

open Text

/-! ## Whole files -/

/-- A byte as it is shown where it cannot be printed; tabs are shown only if that is asked for. -/
def visible (showsTabs : Bool) (c : Char) : Line :=
  let n := c.toNat
  if c == '\t' && !showsTabs then [c]
  else
    let low := n % 128
    let start := if 128 ≤ n then ['M', '-'] else []
    start ++ (if low < 32 then ['^', Char.ofNat (low + 64)] else if low == 127 then ['^', '?'] else [Char.ofNat low])

/-- How files are printed. -/
structure CatStyle where
  numbersAll : Bool
  numbersFilled : Bool
  squeezes : Bool
  showsEnds : Bool
  showsTabs : Bool
  showsOthers : Bool

/-- Whether bytes are printed as they are. -/
def CatStyle.isPlain (s : CatStyle) : Bool :=
  !(s.numbersAll || s.numbersFilled || s.squeezes || s.showsEnds || s.showsTabs || s.showsOthers)

/-- The lines that are left where empty lines follow each other. -/
def squeezed (wasEmpty : Bool) : List Line → List Line
  | [] => []
  | line :: lines => if wasEmpty && line.isEmpty then squeezed true lines else line :: squeezed line.isEmpty lines

/-- The lines of files, numbered from a number on. -/
def catLines (s : CatStyle) (number : Nat) (lines : List Line) (isEnded : Bool) : ByteArray :=
  let lines := if s.squeezes then squeezed false lines else lines
  let count := lines.length
  let step (state : Nat × ByteArray) (item : Line × Nat) : Nat × ByteArray :=
    let (number, bytes) := state
    let (line, i) := item
    let isNumbered := if s.numbersFilled then !line.isEmpty else s.numbersAll
    let start := if isNumbered then padded 6 (toString number) ++ "\t" else ""
    let body := line.flatMap fun c =>
      if c == '\t' then visible s.showsTabs c else if s.showsOthers then visible true c else [c]
    let ending := if isEnded || i + 1 < count then (if s.showsEnds then ['$', '\n'] else ['\n']) else []
    (if isNumbered then number + 1 else number, bytes ++ start.toUTF8 ++ bytesOfChars (body ++ ending))
  (lines.zipIdx.foldl step (number, .empty)).2

/-- Whether a file that is read is the one that the output goes to, with something in it that was not read. -/
def isOutput (p : Process) (operand : String) : Bool :=
  let number? : Option Nat := match p.file? 1 with
    | some (_, file) =>
      match file.channel with
      | .node number => some number
      | _ => none
    | none => none
  match number? with
  | none => false
  | some number =>
    if operand == "-" then
      match p.file? 0 with
      | some (_, file) =>
        file.channel == .node number && (p.content 0 file.channel).toOption.any fun bytes => file.position < bytes.size
      | none => false
    else
      (p.disk.find operand).toOption.bind p.disk.number? == some number &&
        (p.disk.read operand).toOption.any fun bytes => !bytes.isEmpty

/-- Prints files one after the other. -/
def cat : Tool := fun name args => do
  let rules : List OptionRule :=
    [⟨"b", "number-nonblank", .none⟩, ⟨"n", "number", .none⟩, ⟨"s", "squeeze-blank", .none⟩,
     ⟨"v", "show-nonprinting", .none⟩, ⟨"E", "show-ends", .none⟩, ⟨"T", "show-tabs", .none⟩, ⟨"A", "show-all", .none⟩,
     ⟨"e", "", .none⟩, ⟨"t", "", .none⟩, ⟨"u", "", .none⟩]
  let (options, operands) ← readOptions name rules false 1 args
  let any (names : List String) : Bool := names.any (has options)
  let style : CatStyle :=
    { numbersAll := has options "number"
      numbersFilled := has options "number-nonblank"
      squeezes := has options "squeeze-blank"
      showsEnds := any ["show-ends", "show-all", "e"]
      showsTabs := any ["show-tabs", "show-all", "t"]
      showsOthers := any ["show-nonprinting", "show-all", "e", "t"] }
  let mut code := 0
  let mut all := ByteArray.empty
  for operand in orInput operands do
    if isOutput (← getThe Process) operand then
      complain name s!"{shellQuotedIfNeeded operand}: input file is output file"
      code := 1
    else
      match ← readOperand operand with
      | .error fault =>
        complain name (plainComplaint operand fault)
        code := 1
      | .ok bytes =>
        if style.isPlain then put name bytes
        else all := all ++ bytes
  let (lines, isEnded) := linesOf '\n' all
  unless lines.isEmpty do put name (catLines style 1 lines isEnded)
  pure code

/-- Prints its input and writes it to files. -/
def tee : Tool := fun name args => do
  let rules : List OptionRule :=
    [⟨"a", "append", .none⟩, ⟨"i", "ignore-interrupts", .none⟩, ⟨"p", "", .none⟩, ⟨"", "output-error", .optional⟩]
  let (options, operands) ← readOptions name rules false 1 args
  let access := if has options "append" then Access.append else .write
  let mut code := 0
  let mut numbers : List (String × Nat) := []
  for path in operands do
    match (← getThe Process).openPath path access 0o666 with
    | .ok (number, p) =>
      set p
      numbers := numbers ++ [(path, number)]
    | .error fault =>
      complain name (plainComplaint path fault)
      code := 1
  let bytes := (← readOperand "-").toOption.getD .empty
  match ← Process.putBytes bytes with
  | .ok () => pure ()
  | .error fault =>
    endBySignal fault
    complain name s!"standard output: {fault.text}"
    code := 1
  for (path, number) in numbers do
    match ← Process.writeFile number bytes with
    | .ok () => pure ()
    | .error fault =>
      endBySignal fault
      complain name (plainComplaint path fault)
      code := 1
  pure code

/-! ## Lines in another order -/

/-- How a file is cut into records. -/
structure RecordStyle where
  /-- Whether a separator begins a record, instead of ending one. -/
  isBefore : Bool
  /-- How long the separator is that bytes begin with, of which so many may belong to it. -/
  lengthAt? : Array Char → Nat → Nat → Option Nat

/-- The separators of bytes as their places and lengths, from the last to the first; they do not overlap. Those are told
that begin before a place and end by another. -/
def separatorsBefore (s : RecordStyle) (cs : Array Char) (place last : Nat) : List (Nat × Nat) :=
  match place with
  | 0 => []
  | place + 1 =>
    match s.lengthAt? cs place last with
    | some length => (place, length) :: separatorsBefore s cs place place
    | none => separatorsBefore s cs place last

/-- The records of bytes, the last first, given their separators from the last on and the end of what is left. -/
def recordsBefore (s : RecordStyle) (cs : Array Char) (isFirst : Bool) (last : Nat) :
    List (Nat × Nat) → List (Array Char)
  | [] => [cs.extract 0 last]
  | (place, length) :: places =>
    if s.isBefore then cs.extract place last :: recordsBefore s cs false place places
    else
      let cut := place + length
      if isFirst && cut == last then recordsBefore s cs false cut places
      else cs.extract cut last :: recordsBefore s cs false cut places

/-- How long a text is where bytes have it. -/
def lengthOfText? (text : List Char) (cs : Array Char) (place last : Nat) : Option Nat :=
  if place + text.length ≤ last && (cs.extract place (place + text.length)).toList == text then some text.length
  else none

/-- Prints the records of each file, the last first. -/
def tac : Tool := fun name args => do
  let rules : List OptionRule :=
    [⟨"b", "before", .none⟩, ⟨"r", "regex", .none⟩, ⟨"s", "separator", .required⟩]
  let (options, operands) ← readOptions name rules false 1 args
  let separator := byteChars ((argument? options "separator").getD "\n")
  let lengthAt? ← if has options "regex" then do
      if separator.isEmpty then fail name "separator cannot be empty" 1
      match Regex.ofText? ⟨false, true, false⟩ separator with
      | .ok parsed =>
        pure fun (cs : Array Char) (place last : Nat) =>
          let subject : Regex.Subject := ⟨cs.extract 0 last, false, false⟩
          (Regex.matchAt? parsed.regex subject place).map fun m => m.last - place
      | .error fault => fail name fault.text 1
    else pure (lengthOfText? (if separator.isEmpty then ['\x00'] else separator))
  let style : RecordStyle := ⟨has options "before", lengthAt?⟩
  forEachInput name (orInput operands)
    (fun operand fault => if fault == .isDirectory then s!"{shellQuotedIfNeeded operand}: read error: {fault.text}"
      else s!"failed to open {shellQuoted operand} for reading: {fault.text}")
    fun _ bytes => do
      let cs := (charsOfBytes bytes).toArray
      let records := recordsBefore style cs true cs.size (separatorsBefore style cs cs.size cs.size)
      put name (bytesOfChars (records.flatMap Array.toList))
      pure 0

/-- Prints the lines of each file, each from its end. -/
def rev : Tool := fun name args => do
  let (_, operands) ← readOptions name [] false 1 args
  let reversed (bytes : ByteArray) : ToolM Nat := do
    let (lines, isEnded) := linesOf '\n' bytes
    put name (bytesOfText '\n' (lines.map List.reverse) isEnded)
    pure 0
  if operands.isEmpty then reversed ((← readOperand "-").toOption.getD .empty)
  else
    eachOf operands fun operand => do
      match ← ExceptT.lift (Process.takeFile operand) with
      | .ok bytes => reversed bytes
      | .error fault =>
        complain name (if fault == .isDirectory then s!"{operand}: {fault.text}"
          else s!"cannot open {operand}: {fault.text}")
        pure 1

end Rebuild.Tool
