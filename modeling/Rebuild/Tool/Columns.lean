import Rebuild.Tool.Amount
import Rebuild.Tool.Input

/-!
# Columns of lines

A tab goes on to the next column at which a stop is. `fold` breaks lines that are wider than a width, `expand` replaces
tabs by blanks and `unexpand` blanks by tabs.
-/

namespace Rebuild.Tool

open Text

/-- Options in which a number after a dash stands for another option. -/
def digitRules : List OptionRule :=
  "0123456789".toList.map fun c => ⟨c.toString, "", .optional⟩

/-! ## Breaking lines -/

/-- How lines are broken. -/
structure FoldStyle where
  width : Nat := 80
  countsBytes : Bool := false
  atBlanks : Bool := false

/-- The column after a byte. -/
def FoldStyle.columnAfter (s : FoldStyle) (column : Nat) (c : Char) : Nat :=
  if s.countsBytes then column + 1
  else
    match c with
    | '\x08' => column - 1
    | '\r' => 0
    | '\t' => column + 8 - column % 8
    | _ => column + 1

/-- Where the breaking of lines has come: what was written, the last byte first, and the line that is not written
yet. -/
structure FoldState where
  written : Line := []
  line : Line := []
  column : Nat := 0

/-- Takes a byte, which may begin a new line, at most so many times. -/
def FoldStyle.take (s : FoldStyle) (limit : Nat) (state : FoldState) (c : Char) : FoldState :=
  match limit with
  | 0 => state
  | limit + 1 =>
    if c == '\n' then ⟨c :: (state.line ++ state.written), [], 0⟩
    else
      let column := s.columnAfter state.column c
      if column ≤ s.width then { state with line := c :: state.line, column }
      else
        let isBlank (c : Char) : Bool := c == ' ' || c == '\t'
        let after := state.line.takeWhile fun c => !isBlank c
        let before := state.line.drop after.length
        if s.atBlanks && !before.isEmpty then
          let column := after.reverse.foldl s.columnAfter 0
          s.take limit ⟨'\n' :: (before ++ state.written), after, column⟩ c
        else if state.line.isEmpty then { state with line := [c], column }
        else s.take limit ⟨'\n' :: (state.line ++ state.written), [], 0⟩ c

/-- Bytes with their lines broken. -/
def FoldStyle.broken (s : FoldStyle) (cs : Line) : Line :=
  let state := cs.foldl (fun state c => s.take (state.line.length + 2) state c) {}
  (state.line ++ state.written).reverse

/-- Breaks long lines. -/
def fold : Tool := fun name args => do
  let rules : List OptionRule :=
    [⟨"b", "bytes", .none⟩, ⟨"s", "spaces", .none⟩, ⟨"w", "width", .required⟩] ++ digitRules
  let (style, operands) ← foldOptions name rules false 1 args ({} : FoldStyle) fun s given => do
    match given with
    | ("bytes", _) => pure { s with countsBytes := true }
    | ("spaces", _) => pure { s with atBlanks := true }
    | (option, argument) =>
      let text := (if option == "width" then "" else option) ++ argument.getD ""
      pure { s with width := ← readCount name "invalid number of columns" "" 1 text }
  forEachInput name (orInput operands) plainComplaint fun _ bytes => do
    put name (bytesOfChars (style.broken (charsOfBytes bytes)))
    pure 0

/-! ## Tab stops -/

/-- The columns at which tabs stop: some of them, and how far apart those after them are, counted from the beginning of
the line or from the last of those. -/
structure TabStops where
  columns : List Nat := []
  multiple? : Option Nat := none
  further? : Option Nat := none

/-- What is wrong with tab stops. Some of them are complained of without an end. -/
inductive TabFault where
  | notFirst (mark : Char) (text : String)
  | notLast (mark : Char)
  | tooLarge (digits : String)
  | invalid (text : String)
deriving DecidableEq, Repr

/-- The wording of what is wrong with tab stops. -/
def TabFault.text : TabFault → String
  | .notFirst mark text => s!"'{mark}' specifier not at start of number: {plainlyQuoted text}"
  | .notLast mark => s!"'{mark}' specifier only allowed with the last value"
  | .tooLarge digits => s!"tab stop is too large {plainlyQuoted digits}"
  | .invalid text => s!"tab size contains invalid character(s): {plainlyQuoted text}"

/-- Where the reading of tab stops has come. -/
structure TabReading where
  stops : TabStops
  number? : Option (List Char) := none
  mark? : Option Char := none
  faults : List TabFault := []

namespace TabReading

/-- Whether the reading goes on: marks at the wrong place and great numbers are complained of, others stop it. -/
def isStopped (r : TabReading) : Bool :=
  r.faults.any fun fault => match fault with
    | .invalid _ | .notLast _ => true
    | _ => false

/-- Ends a number. -/
def finish (r : TabReading) : TabReading :=
  match r.number? with
  | none => r
  | some digits =>
    let n := (String.ofList digits).toNat?.getD 0
    let r := { r with number? := none }
    if r.faults.any fun fault => fault == .tooLarge (String.ofList digits) then r
    else
      match r.mark? with
      | some '/' =>
        if (r.stops.multiple?.filter (0 < ·)).isSome then { r with faults := .notLast '/' :: r.faults }
        else { r with stops := { r.stops with multiple? := some n } }
      | some _ =>
        if (r.stops.further?.filter (0 < ·)).isSome then { r with faults := .notLast '+' :: r.faults }
        else { r with stops := { r.stops with further? := some n } }
      | none => { r with stops := { r.stops with columns := r.stops.columns ++ [n] } }

/-- Takes a character, with all that follows it. -/
def take (r : TabReading) (c : Char) (text : List Char) : TabReading :=
  if r.isStopped then r
  else if c == ',' || c == ' ' || c == '\t' then r.finish
  else if c == '/' || c == '+' then
    let faults := if r.number?.isSome then .notFirst c (String.ofList text) :: r.faults else r.faults
    { r with mark? := some c, faults }
  else if c.isDigit then
    match r.number? with
    | none =>
      let digits := text.takeWhile Char.isDigit
      let n := (String.ofList digits).toNat?.getD 0
      let faults := if greatestNatural < n then .tooLarge (String.ofList digits) :: r.faults else r.faults
      { r with number? := some digits, faults }
    | some _ => r
  else { r with faults := .invalid (String.ofList text) :: r.faults }

/-- Takes all characters. -/
def takeAll (r : TabReading) : List Char → TabReading
  | [] => if r.faults.isEmpty then r.finish else r
  | c :: cs => (r.take c (c :: cs)).takeAll cs

end TabReading

/-- The tab stops that a text adds to others. -/
def readTabStops (name : String) (stops : TabStops) (text : String) : ToolM TabStops := do
  let r := TabReading.takeAll { stops } text.toList
  for fault in r.faults.reverse do complain name fault.text
  unless r.faults.isEmpty do quit 1
  pure r.stops

namespace TabStops

/-- What is wrong with columns that follow another. -/
def columnFault? (before : Nat) : List Nat → Option String
  | [] => none
  | 0 :: _ => some "tab size cannot be 0"
  | n :: ns => if n ≤ before then some "tab sizes must be ascending" else columnFault? n ns

/-- What is wrong with all tab stops together. -/
def fault? (s : TabStops) : Option String :=
  (columnFault? 0 s.columns).orElse fun _ =>
    if (s.multiple?.filter (0 < ·)).isSome && (s.further?.filter (0 < ·)).isSome then
      some "'/' specifier is mutually exclusive with '+'"
    else none

/-- How far apart all stops are, if nothing else is said of them. -/
def size? (s : TabStops) : Option Nat :=
  let multiple := s.multiple?.filter (0 < ·)
  let further := s.further?.filter (0 < ·)
  match s.columns, multiple, further with
  | [], some n, _ | [], none, some n => some n
  | [], none, none => some 8
  | [n], none, none => some n
  | _, _, _ => none

/-- The first stop after a column, of those from a place in the list on, and the place that it has. -/
def next? (s : TabStops) (column place : Nat) : Option Nat × Nat :=
  match s.size? with
  | some n => (some (column + n - column % n), place)
  | none =>
    let passed := (s.columns.drop place).takeWhile (· ≤ column)
    let place := place + passed.length
    match s.columns[place]?, s.multiple?.filter (0 < ·), s.further?.filter (0 < ·) with
    | some stop, _, _ => (some stop, place)
    | none, some n, _ => (some (column + n - column % n), place)
    | none, none, some n => (some (column + n - (column - s.columns.getLast?.getD 0) % n), place)
    | none, none, none => (none, place)

end TabStops

/-! ## Replacing tabs -/

/-- Where the replacement of tabs has come in a line. -/
structure ExpandState where
  column : Nat := 0
  place : Nat := 0
  isDone : Bool := false

/-- The bytes of a line with its tabs replaced. -/
def expandLine (s : TabStops) (wholeLine : Bool) (state : ExpandState) : Line → Line
  | [] => []
  | c :: cs =>
    if state.isDone then c :: cs
    else
      match c with
      | '\t' =>
        let (stop, place) := s.next? state.column state.place
        let stop := stop.getD (state.column + 1)
        List.replicate (stop - state.column) ' ' ++ expandLine s wholeLine ⟨stop, place, false⟩ cs
      | '\x08' => c :: expandLine s wholeLine ⟨state.column - 1, state.place - 1, !wholeLine⟩ cs
      | c => c :: expandLine s wholeLine ⟨state.column + 1, state.place, !(wholeLine || c == ' ')⟩ cs

/-- The bytes of the operands, one after the other. -/
def concatenated (name : String) (operands : List String) : ToolM (ByteArray × Nat) := do
  let mut all := ByteArray.empty
  let mut code := 0
  for operand in operands do
    match ← readOperand operand with
    | .ok bytes => all := all ++ bytes
    | .error fault =>
      complain name (plainComplaint operand fault)
      code := 1
  pure (all, code)

/-- Prints what is made of the lines of all operands together. -/
def printChanged (name : String) (operands : List String) (change : Line → Line) : ToolM Nat := do
  let (all, code) ← concatenated name (orInput operands)
  let (lines, isEnded) := linesOf '\n' all
  put name (bytesOfText '\n' (lines.map change) isEnded)
  pure code

/-- Ends a program if its tab stops are wrong. -/
def checkTabStops (name : String) (stops : TabStops) : ToolM Unit := do
  match stops.fault? with
  | some text => fail name text 1
  | none => pure ()

/-- Replaces tabs by blanks. -/
def expand : Tool := fun name args => do
  let rules : List OptionRule := [⟨"i", "initial", .none⟩, ⟨"t", "tabs", .required⟩] ++ digitRules
  let ((stops, wholeLine), operands) ← foldOptions name rules false 1 args (({} : TabStops), true)
    fun (stops, wholeLine) given => do
      match given with
      | ("initial", _) => pure (stops, false)
      | (option, argument) =>
        let text := (if option == "tabs" then "" else option) ++ argument.getD ""
        pure (← readTabStops name stops text, wholeLine)
  checkTabStops name stops
  printChanged name operands (expandLine stops wholeLine {})

/-! ## Replacing blanks -/

/-- Where the replacement of blanks has come in a line: the blanks that wait for a tab, the last first. -/
structure UnexpandState where
  column : Nat := 0
  place : Nat := 0
  waiting : Line := []
  /-- Whether the first of these blanks came just before a stop. -/
  isBeforeStop : Bool := false
  followsBlank : Bool := true

namespace UnexpandState

/-- The blanks that wait, as they are written. -/
def released (s : UnexpandState) : Line :=
  let waiting := s.waiting.reverse
  if 1 < waiting.length && s.isBeforeStop then '\t' :: waiting.drop 1 else waiting

/-- The first of the blanks that wait, as a tab, if it is to stay. -/
def kept (s : UnexpandState) : Line :=
  if s.isBeforeStop then ['\t'] else []

end UnexpandState

/-- The bytes of a line with blanks replaced. -/
def unexpandLine (s : TabStops) (wholeLine : Bool) (state : UnexpandState) : Line → Line
  | [] => state.released
  | c :: cs =>
    let goesOn := wholeLine || c == ' ' || c == '\t'
    if c == ' ' || c == '\t' then
      match s.next? state.column state.place with
      | (none, _) => state.released ++ c :: cs
      | (some stop, place) =>
        if c == '\t' then
          let next : UnexpandState := { column := stop, place }
          state.kept ++ c :: unexpandLine s wholeLine next cs
        else
          let column := state.column + 1
          if state.followsBlank && column == stop then
            let next : UnexpandState := { column, place }
            state.kept ++ '\t' :: unexpandLine s wholeLine next cs
          else
            unexpandLine s wholeLine
              ⟨column, place, c :: state.waiting, state.isBeforeStop || column == stop, true⟩ cs
    else
      let (column, place) :=
        if c == '\x08' then (state.column - 1, state.place - 1) else (state.column + 1, state.place)
      let rest := if goesOn then unexpandLine s wholeLine ⟨column, place, [], false, false⟩ cs else cs
      state.released ++ c :: rest

/-- Replaces blanks by tabs. -/
def unexpand : Tool := fun name args => do
  let rules : List OptionRule :=
    [⟨"a", "all", .none⟩, ⟨"t", "tabs", .required⟩, ⟨"", "first-only", .none⟩, ⟨",", "", .none⟩] ++
      "0123456789".toList.map fun c => ⟨c.toString, "", .none⟩
  let start : TabStops × Bool × Bool × Option Nat := ({}, false, false, none)
  let withNumber (stops : TabStops) (number : Option Nat) : TabStops :=
    { stops with columns := stops.columns ++ number.toList }
  let ((stops, wholeLine, firstOnly, number), operands) ← foldOptions name rules false 1 args start
    fun (stops, wholeLine, firstOnly, number) given => do
      match given with
      | ("all", _) => pure (stops, true, firstOnly, number)
      | ("tabs", text) => pure (← readTabStops name stops (text.getD ""), true, firstOnly, number)
      | ("first-only", _) => pure (stops, wholeLine, true, number)
      | (",", _) => pure (withNumber stops number, wholeLine, firstOnly, none)
      | (digit, _) => pure (stops, wholeLine, firstOnly, some (10 * number.getD 0 + digit.toNat?.getD 0))
  let stops := withNumber stops number
  checkTabStops name stops
  printChanged name operands (unexpandLine stops (wholeLine && !firstOnly) {})

end Rebuild.Tool
