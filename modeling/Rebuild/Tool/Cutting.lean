import Rebuild.Tool.Amount
import Rebuild.Tool.Input

/-!
# Parts of lines

`cut` keeps those bytes or fields of each line whose places a list names. The spans of a list are put in order, and
those that overlap are one.
-/

namespace Rebuild.Tool

open Text

/-! ## Spans -/

/-- Numbers from one to another, the last of which may be missing. -/
abbrev Span := Nat × Option Nat

/-- Why a list of spans cannot be read. -/
inductive SpanFault where
  | invalid (text : String)
  | tooLarge (digits : String)
  | badRange
  | zero
  | decreasing
  | endless
deriving DecidableEq, Repr

/-- The wording of why a list cannot be read, for fields or for bytes. -/
def SpanFault.text (ofFields : Bool) : SpanFault → String
  | .invalid text =>
    (if ofFields then "invalid field value " else "invalid byte/character position ") ++ plainlyQuoted text
  | .tooLarge digits =>
    (if ofFields then "field number " else "byte/character offset ") ++ plainlyQuoted digits ++ " is too large"
  | .badRange => if ofFields then "invalid field range" else "invalid byte or character range"
  | .zero => if ofFields then "fields are numbered from 1" else "byte/character positions are numbered from 1"
  | .decreasing => "invalid decreasing range"
  | .endless => "invalid range with no endpoint: -"

/-- The number at the beginning of a text, if there is one, and what follows it. -/
def spanNumber (cs : List Char) : Except SpanFault (Option Nat × List Char) :=
  let digits := cs.takeWhile Char.isDigit
  let n := (String.ofList digits).toNat?.getD 0
  if digits.isEmpty then .ok (none, cs)
  else if greatestNatural ≤ n then .error (.tooLarge (String.ofList digits))
  else .ok (some n, cs.drop digits.length)

/-- The span at the beginning of a text, and what follows it. -/
def spanFront (cs : List Char) : Except SpanFault (Span × List Char) := do
  let (first, rest) ← spanNumber cs
  match rest with
  | '-' :: rest =>
    if first == some 0 then throw .zero
    let (last, rest) ← spanNumber rest
    match rest with
    | '-' :: _ => throw .badRange
    | c :: _ => unless c == ',' || c == ' ' || c == '\t' do throw (.invalid (String.ofList rest))
    | [] => pure ()
    match first, last with
    | none, none => throw .endless
    | first, none => pure ((first.getD 1, none), rest)
    | first, some last =>
      if last < first.getD 1 then throw .decreasing
      pure ((first.getD 1, some last), rest)
  | rest =>
    match rest with
    | c :: _ => unless c == ',' || c == ' ' || c == '\t' do throw (.invalid (String.ofList rest))
    | [] => pure ()
    match first with
    | none | some 0 => throw .zero
    | some n => pure ((n, some n), rest)

/-- The spans that a text lists, at most so many. -/
def spansFrom (limit : Nat) (cs : List Char) : Except SpanFault (List Span) :=
  match limit with
  | 0 => .ok []
  | limit + 1 => do
    let (span, rest) ← spanFront cs
    match rest with
    | [] => pure [span]
    | _ :: rest => pure (span :: (← spansFrom limit rest))

/-- Spans in the order of their beginnings, of which those that overlap are one. -/
def mergedSpans : List Span → List Span
  | [] => []
  | [span] => [span]
  | (first, last) :: (next, end?) :: spans =>
    if last.all (next ≤ ·) then
      mergedSpans ((first, match last, end? with
        | some a, some b => some (max a b)
        | _, _ => none) :: spans)
    else (first, last) :: mergedSpans ((next, end?) :: spans)
termination_by spans => spans.length

/-- The spans between spans in their order, from a number on. -/
def spansBetween (start : Nat) : List Span → List Span
  | [] => [(start, none)]
  | (first, last) :: spans =>
    let before := if start < first then [(start, some (first - 1))] else []
    match last with
    | some last => before ++ spansBetween (last + 1) spans
    | none => before

/-- The spans that a text lists. -/
def spansOf (text : String) : Except SpanFault (List Span) := do
  let spans ← spansFrom (text.length + 1) text.toList
  pure (mergedSpans (spans.mergeSort fun a b => a.1 ≤ b.1))

/-- What spans keep of a list, a part for each, given the number of the first member. -/
def partsIn (number : Nat) (items : List α) : List Span → List (List α)
  | [] => []
  | (first, last) :: spans =>
    let rest := items.drop (first - number)
    match last with
    | none => [rest]
    | some last => rest.take (last + 1 - first) :: partsIn (last + 1) (rest.drop (last + 1 - first)) spans

/-! ## Cutting -/

/-- What is kept of lines. -/
structure CutStyle where
  list? : Option (Bool × String) := none
  delimiter? : Option Char := none
  between? : Option Line := none
  onlyDelimited : Bool := false
  complements : Bool := false
  ending : Char := '\n'

/-- What is kept of the bytes of a line. -/
def CutStyle.cutBytes (s : CutStyle) (spans : List Span) (line : Line) : Line :=
  let parts := (partsIn 1 line spans).filter fun part => !part.isEmpty
  (s.between?.getD []).intercalate parts

/-- What is kept of the fields of a line. -/
def CutStyle.cutFields (s : CutStyle) (spans : List Span) (line : Line) : Option Line :=
  let delimiter := s.delimiter?.getD '\t'
  match line.splitOnP (· == delimiter) with
  | [] | [_] => if s.onlyDelimited then none else some line
  | fields => some ((s.between?.getD [delimiter]).intercalate (partsIn 1 fields spans).flatten)

/-- Takes an option of `cut`. -/
def cutOption (name : String) (s : CutStyle) (given : Given) : ToolM CutStyle := do
  let text := given.2.getD ""
  match given.1 with
  | "bytes" | "characters" | "fields" =>
    if s.list?.isSome then failWithHelp name "only one list may be specified" 1
    pure { s with list? := some (given.1 == "fields", text) }
  | "delimiter" =>
    match byteChars text with
    | [] => pure { s with delimiter? := some '\x00' }
    | [c] => pure { s with delimiter? := some c }
    | _ => failWithHelp name "the delimiter must be a single character" 1
  | "output-delimiter" => pure { s with between? := some (if text.isEmpty then ['\x00'] else byteChars text) }
  | "only-delimited" => pure { s with onlyDelimited := true }
  | "complement" => pure { s with complements := true }
  | "zero-terminated" => pure { s with ending := '\x00' }
  | _ => pure s

/-- Keeps parts of lines. -/
def cut : Tool := fun name args => do
  let rules : List OptionRule :=
    [⟨"b", "bytes", .required⟩, ⟨"c", "characters", .required⟩, ⟨"d", "delimiter", .required⟩,
     ⟨"f", "fields", .required⟩, ⟨"n", "", .none⟩, ⟨"s", "only-delimited", .none⟩, ⟨"", "complement", .none⟩,
     ⟨"", "output-delimiter", .required⟩, ⟨"z", "zero-terminated", .none⟩]
  let (style, operands) ← foldOptions name rules false 1 args {} (cutOption name)
  match style.list? with
  | none => failWithHelp name "you must specify a list of bytes, characters, or fields" 1
  | some (ofFields, text) =>
    if style.delimiter?.isSome && !ofFields then
      failWithHelp name "an input delimiter may be specified only when operating on fields" 1
    if style.onlyDelimited && !ofFields then
      failWithHelp name "suppressing non-delimited lines makes sense\n\tonly when operating on fields" 1
    match spansOf text with
    | .error fault => failWithHelp name (fault.text ofFields) 1
    | .ok spans =>
      let spans := if style.complements then spansBetween 1 spans else spans
      let isWhole := ofFields && style.delimiter? == some style.ending
      forEachInput name (orInput operands) plainComplaint fun _ bytes => do
        let (lines, _) := linesOf style.ending bytes
        let lines := if isWhole && !lines.isEmpty then [[style.ending].intercalate lines] else lines
        let kept := if ofFields then lines.filterMap (style.cutFields spans)
          else lines.map (style.cutBytes spans)
        put name (bytesOfLines style.ending kept)
        pure 0

end Rebuild.Tool
