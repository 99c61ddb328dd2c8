import Rebuild.Tool.Input

/-!
# Lines side by side

`paste` joins the lines of its files, the first of each, the second of each and so on, or all lines of one file. The
delimiters between them are used in turn.
-/

namespace Rebuild.Tool

open Text

/-- The delimiters that a text lists; a zero stands for none. A backslash at the end is told by its absence. -/
def delimitersOf? : Line → Option (List Line)
  | '\\' :: c :: cs =>
    let delimiter : Line := match c with
      | '0' => []
      | 'b' => ['\x08']
      | 'f' => ['\x0c']
      | 'n' => ['\n']
      | 'r' => ['\r']
      | 't' => ['\t']
      | 'v' => ['\x0b']
      | c => [c]
    (delimitersOf? cs).map (delimiter :: ·)
  | ['\\'] => none
  | c :: cs => (delimitersOf? cs).map ([c] :: ·)
  | [] => some []

/-- The rows of columns of lines; a column that has ended is empty. -/
def rowsOf (columns : List (List Line)) : List (List Line) :=
  let columns := columns.map List.toArray
  let count := (columns.map Array.size).foldl max 0
  (List.range count).map fun i => columns.map fun column => column[i]?.getD []

/-- Lines with delimiters between them, which are used in turn. -/
def joinedLine (delimiters : Array Line) (lines : List Line) : Line :=
  lines.zipIdx.flatMap fun (line, i) =>
    if i == 0 then line else delimiters[(i - 1) % delimiters.size]?.getD [] ++ line

/-- The lines of the input that each of several columns takes, given how many there are. -/
def dealtLines (count turn : Nat) (lines : List Line) : List Line :=
  (lines.zipIdx.filter fun item => item.2 % count == turn).map Prod.fst

/-- Joins all lines of each file. -/
def pasteSerially (name : String) (delimiters : Array Line) (ending : Char) (names : List String) : ToolM Nat :=
  eachOf names fun operand => do
    match ← readOperand operand with
    | .ok bytes =>
      put name (bytesOfLines ending [joinedLine delimiters (linesOf ending bytes).1])
      pure 0
    | .error fault =>
      if fault == .isDirectory then put name (bytesOfLines ending [[]])
      complain name (plainComplaint operand fault)
      pure 1

/-- Joins the lines of files. -/
def pasteInParallel (name : String) (delimiters : Array Line) (ending : Char) (names : List String) : ToolM Nat := do
  for operand in names do
    if operand != "-" then
      match (← disk).get operand with
      | .error fault => fail name (plainComplaint operand fault) 1
      | .ok _ => pure ()
  let dashes := (names.filter (· == "-")).length
  let shared ← if 0 < dashes then
      pure (linesOf ending ((← readOperand "-").toOption.getD .empty)).1
    else pure []
  let mut columns : List (List Line) := []
  let mut taken := 0
  let mut code := 0
  for operand in names do
    if operand == "-" then
      columns := columns ++ [dealtLines dashes taken shared]
      taken := taken + 1
    else
      match ← readOperand operand with
      | .ok bytes => columns := columns ++ [(linesOf ending bytes).1]
      | .error fault =>
        complain name (plainComplaint operand fault)
        columns := columns ++ [[]]
        code := 1
  put name (bytesOfLines ending ((rowsOf columns).map (joinedLine delimiters)))
  pure code

/-- Joins lines. -/
def paste : Tool := fun name args => do
  let rules : List OptionRule :=
    [⟨"d", "delimiters", .required⟩, ⟨"s", "serial", .none⟩, ⟨"z", "zero-terminated", .none⟩]
  let (options, operands) ← readOptions name rules false 1 args
  let text := (argument? options "delimiters").getD "\t"
  let ending := if has options "zero-terminated" then '\x00' else '\n'
  match delimitersOf? (if text.isEmpty then ['\\', '0'] else byteChars text) with
  | none => fail name s!"delimiter list ends with an unescaped backslash: {text}" 1
  | some delimiters =>
    let action := if has options "serial" then pasteSerially else pasteInParallel
    action name delimiters.toArray ending (orInput operands)

end Rebuild.Tool
