import Rebuild.Text.Regex.Parser
import Rebuild.Tool.Amount
import Rebuild.Tool.Input

/-!
# Numbering lines

`nl` numbers the lines of its input. Lines that hold only delimiters divide it into pages, each with a header, a body
and a footer, in which different lines are numbered.
-/

namespace Rebuild.Tool

open Text

/-- Which lines of a section are numbered. -/
inductive NumberedLines where
  | all
  | filled
  | none
  | matching (r : Regex)

/-- A section of a page. -/
inductive PageSection where
  | header
  | body
  | footer
deriving DecidableEq, Repr

/-- How the numbers of lines are written. -/
inductive NumberForm where
  | left
  | right
  | zeros
deriving DecidableEq, Repr

/-- How lines are numbered. -/
structure NumberingStyle where
  header : NumberedLines := .none
  body : NumberedLines := .filled
  footer : NumberedLines := .none
  start : Int := 1
  step : Int := 1
  renumbers : Bool := true
  /-- Of so many empty lines that follow each other, the last is numbered. -/
  joined : Nat := 1
  separator : Line := ['\t']
  width : Nat := 6
  form : NumberForm := .right
  delimiter : Line := ['\\', ':']

namespace NumberingStyle

/-- The lines that are numbered in a section. -/
def linesIn (s : NumberingStyle) : PageSection → NumberedLines
  | .header => s.header
  | .body => s.body
  | .footer => s.footer

/-- The section that a line begins. -/
def sectionOf? (s : NumberingStyle) (line : Line) : Option PageSection :=
  let repeated (count : Nat) : Line := (List.replicate count s.delimiter).flatten
  if s.delimiter.length < 2 then none
  else if line == repeated 3 then some .header
  else if line == repeated 2 then some .body
  else if line == s.delimiter then some .footer
  else none

/-- What stands before a line with a number. -/
def numberText (s : NumberingStyle) (n : Int) : Line :=
  let digits := (toString n).toList
  let room := s.width - digits.length
  let shown := match s.form with
    | .left => digits ++ List.replicate room ' '
    | .right => List.replicate room ' ' ++ digits
    | .zeros =>
      if n < 0 then '-' :: (List.replicate room '0' ++ digits.drop 1) else List.replicate room '0' ++ digits
  shown ++ s.separator

/-- What stands before a line without a number. -/
def noNumberText (s : NumberingStyle) : Line :=
  List.replicate (s.width + s.separator.length) ' '

end NumberingStyle

/-- Where the numbering of lines has come. -/
structure NumberingState where
  part : PageSection := .body
  next : Int
  empty : Nat := 0

/-- Whether a line is numbered, and how many empty lines there were since the last number. -/
def NumberingState.isNumbered (s : NumberingStyle) (state : NumberingState) (line : Line) : Bool × Nat :=
  match s.linesIn state.part with
  | .all =>
    if s.joined ≤ 1 then (true, state.empty)
    else if !line.isEmpty || state.empty + 1 == s.joined then (true, 0)
    else (false, state.empty + 1)
  | .filled => (!line.isEmpty, state.empty)
  | .none => (false, state.empty)
  | .matching r => ((r.find? ⟨line.toArray, false, false⟩ 0).isSome, state.empty)

/-- Writes a line with what stands before it. A number that does not fit in 64 bits cannot be written. -/
def numberLine (name : String) (s : NumberingStyle) (state : NumberingState) (line : Line) : ToolM NumberingState := do
  match s.sectionOf? line with
  | some part =>
    put name (bytesOfChars ['\n'])
    pure { state with part, next := if s.renumbers then s.start else state.next }
  | none =>
    let (isNumbered, empty) := state.isNumbered s line
    if isNumbered && (greatestInteger < state.next || state.next < -greatestInteger - 1) then
      fail name "line number overflow" 1
    put name (bytesOfChars ((if isNumbered then s.numberText state.next else s.noNumberText) ++ line ++ ['\n']))
    pure { state with empty, next := if isNumbered then state.next + s.step else state.next }

/-- The lines that an argument says are to be numbered. -/
def numberedLines? (name text : String) : ToolM (Option NumberedLines) := do
  match text.toList with
  | 'a' :: _ => pure (some .all)
  | 't' :: _ => pure (some .filled)
  | 'n' :: _ => pure (some .none)
  | 'p' :: _ =>
    match Regex.ofText? ⟨false, true, false⟩ (byteChars (text.drop 1).toString) with
    | .ok parsed => pure (some (.matching parsed.regex))
    | .error fault => fail name fault.text 1
  | _ => pure none

/-- Takes an option of `nl`, and tells whether it was right. -/
def numberingOption (name : String) (state : NumberingStyle × Bool) (given : Given) :
    ToolM (NumberingStyle × Bool) := do
  let (s, isGood) := state
  let text := given.2.getD ""
  let amount (complaint : String) (least most : Int) : ToolM Int := readAmount name complaint 1 "" least most text
  let lines (part : String) (change : NumberedLines → NumberingStyle) : ToolM (NumberingStyle × Bool) := do
    match ← numberedLines? name text with
    | some lines => pure (change lines, isGood)
    | none =>
      complain name s!"invalid {part} numbering style: {plainlyQuoted text}"
      pure (s, false)
  let lowest := -greatestInteger - 1
  match given.1 with
  | "header-numbering" => lines "header" fun header => { s with header }
  | "body-numbering" => lines "body" fun body => { s with body }
  | "footer-numbering" => lines "footer" fun footer => { s with footer }
  | "starting-line-number" =>
    pure ({ s with start := ← amount "invalid starting line number" lowest greatestInteger }, isGood)
  | "line-increment" =>
    pure ({ s with step := ← amount "invalid line number increment" lowest greatestInteger }, isGood)
  | "no-renumber" => pure ({ s with renumbers := false }, isGood)
  | "join-blank-lines" =>
    pure ({ s with joined := (← amount "invalid line number of blank lines" 1 greatestInteger).toNat }, isGood)
  | "number-separator" => pure ({ s with separator := byteChars text }, isGood)
  | "number-width" =>
    pure ({ s with width := (← amount "invalid line number field width" 1 2147483647).toNat }, isGood)
  | "number-format" =>
    match text with
    | "ln" => pure ({ s with form := .left }, isGood)
    | "rn" => pure ({ s with form := .right }, isGood)
    | "rz" => pure ({ s with form := .zeros }, isGood)
    | _ =>
      complain name s!"invalid line numbering format: {plainlyQuoted text}"
      pure (s, false)
  | _ =>
    match byteChars text with
    | [c] => pure ({ s with delimiter := c :: s.delimiter.drop 1 }, isGood)
    | delimiter => pure ({ s with delimiter }, isGood)

/-- Numbers lines. -/
def nl : Tool := fun name args => do
  let rules : List OptionRule :=
    [⟨"b", "body-numbering", .required⟩, ⟨"d", "section-delimiter", .required⟩, ⟨"f", "footer-numbering", .required⟩,
     ⟨"h", "header-numbering", .required⟩, ⟨"i", "line-increment", .required⟩, ⟨"l", "join-blank-lines", .required⟩,
     ⟨"n", "number-format", .required⟩, ⟨"p", "no-renumber", .none⟩, ⟨"s", "number-separator", .required⟩,
     ⟨"v", "starting-line-number", .required⟩, ⟨"w", "number-width", .required⟩]
  let ((style, isGood), operands) ← foldOptions name rules false 1 args ({}, true) (numberingOption name)
  unless isGood do
    ExceptT.lift (Process.sayError s!"Try '{name} --help' for more information.\n")
    quit 1
  let mut state : NumberingState := { next := style.start }
  let mut code := 0
  for operand in orInput operands do
    match ← readOperand operand with
    | .ok bytes =>
      for line in (linesOf '\n' bytes).1 do
        state ← numberLine name style state line
    | .error fault =>
      complain name (plainComplaint operand fault)
      code := 1
  pure code

end Rebuild.Tool
