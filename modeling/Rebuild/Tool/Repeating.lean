import Rebuild.Tool.Amount
import Rebuild.Tool.Order

/-!
# Repeated lines

`uniq` goes through lines in groups of those that follow each other and are alike, and prints the first of each group,
or those of some groups only, or all lines with a mark between the groups.
-/

namespace Rebuild.Tool

open Text

/-- Where marks stand that divide groups. -/
inductive GroupMarks where
  | none
  | before
  | after
  | between
  | both
deriving DecidableEq, Repr

/-- How repeated lines are printed. -/
structure RepeatStyle where
  skippedFields : Nat := 0
  /-- Whether digits after a dash have said how many fields are skipped. -/
  hasDigits : Bool := false
  skippedChars : Nat := 0
  checked? : Option Nat := none
  ignoresCase : Bool := false
  counts : Bool := false
  showsSingle : Bool := true
  showsFirst : Bool := true
  showsLater : Bool := false
  laterMarks : GroupMarks := .none
  groups? : Option GroupMarks := none
  /-- Whether an option said which lines are printed. -/
  isChosen : Bool := false
  ending : Char := '\n'

namespace RepeatStyle

/-- The part of a line by which it is compared. -/
def part (s : RepeatStyle) (line : Line) : Line :=
  let rest := (dropFields none s.skippedFields line).drop s.skippedChars
  let rest := (s.checked?.map rest.take).getD rest
  if s.ignoresCase then rest.map Char.toUpper else rest

/-- The groups of lines that are alike, each with its lines in order. -/
def groups (s : RepeatStyle) (lines : List Line) : List (List Line) :=
  (((lines.map fun line => (s.part line, line)).splitBy fun a b => a.1 == b.1)).map (·.map Prod.snd)

/-- The lines of a group that are printed. -/
def shown (s : RepeatStyle) (group : List Line) : List Line :=
  let count := group.length
  let counted (line : Line) : Line :=
    if s.counts then (padded 7 (toString count)).toList ++ ' ' :: line else line
  if count ≤ 1 then (if s.showsSingle then group.map counted else [])
  else if s.showsLater then group.dropLast ++ (if s.showsFirst then group.drop (count - 1) else [])
  else if s.showsFirst then (group.take 1).map counted
  else []

/-- The lines of groups with a mark before, after or between them. -/
def marked (marks : GroupMarks) (groups : List (List Line)) : List Line :=
  match marks with
  | .none => groups.flatten
  | .before => groups.flatMap ([] :: ·)
  | .after => groups.flatMap (· ++ [[]])
  | .between => [[]].intercalate groups
  | .both => if groups.isEmpty then [] else [] :: groups.flatMap (· ++ [[]])

/-- The lines that are printed. -/
def written (s : RepeatStyle) (lines : List Line) : List Line :=
  let groups := s.groups lines
  match s.groups? with
  | some marks => marked marks groups
  | none =>
    if s.showsLater then marked s.laterMarks ((groups.map s.shown).filter fun group => !group.isEmpty)
    else groups.flatMap s.shown

end RepeatStyle

/-- The number that an option gives. -/
def readSkip (name complaint text : String) : ToolM Nat := do
  match amountOf "" 0 greatestNatural text with
  | .ok n => pure n.toNat
  | .error .malformed => fail name s!"{text}: {complaint}" 1
  | .error _ => pure greatestNatural.toNat

/-- Takes an option of `uniq`. -/
def repeatOption (name : String) (s : RepeatStyle) (given : Given) : ToolM RepeatStyle := do
  let text := given.2.getD ""
  match given.1 with
  | "count" => pure { s with counts := true, isChosen := true }
  | "repeated" => pure { s with showsSingle := false, isChosen := true }
  | "all-repeated" =>
    let marks ← match given.2 with
      | none => pure GroupMarks.none
      | some text =>
        readChoice name "--all-repeated" 1
          [("none", GroupMarks.none), ("prepend", .before), ("separate", .between)] text
    pure { s with showsSingle := false, showsLater := true, laterMarks := marks, isChosen := true }
  | "D" => pure { s with showsSingle := false, showsLater := true, laterMarks := .none, isChosen := true }
  | "group" =>
    let marks ← match given.2 with
      | none => pure GroupMarks.between
      | some text =>
        let marks := [("prepend", GroupMarks.before), ("append", .after), ("separate", .between), ("both", .both)]
        readChoice name "--group" 1 marks text
    pure { s with groups? := some marks }
  | "skip-fields" =>
    pure { s with skippedFields := ← readSkip name "invalid number of fields to skip" text, hasDigits := false }
  | "ignore-case" => pure { s with ignoresCase := true }
  | "skip-chars" => pure { s with skippedChars := ← readSkip name "invalid number of bytes to skip" text }
  | "unique" => pure { s with showsFirst := false, isChosen := true }
  | "check-chars" => pure { s with checked? := some (← readSkip name "invalid number of bytes to compare" text) }
  | "zero-terminated" => pure { s with ending := '\x00' }
  | digit =>
    let before := if s.hasDigits then s.skippedFields else 0
    pure { s with skippedFields := 10 * before + digit.toNat?.getD 0, hasDigits := true }

/-- Prints lines without repeating them. -/
def uniq : Tool := fun name args => do
  let rules : List OptionRule :=
    [⟨"c", "count", .none⟩, ⟨"d", "repeated", .none⟩, ⟨"D", "", .none⟩, ⟨"", "all-repeated", .optional⟩,
     ⟨"f", "skip-fields", .required⟩, ⟨"", "group", .optional⟩, ⟨"i", "ignore-case", .none⟩,
     ⟨"s", "skip-chars", .required⟩, ⟨"u", "unique", .none⟩, ⟨"w", "check-chars", .required⟩,
     ⟨"z", "zero-terminated", .none⟩] ++ "0123456789".toList.map fun c => ⟨c.toString, "", .none⟩
  let (s, operands) ← foldOptions name rules false 1 args {} (repeatOption name)
  let skip? (word : String) : Option Nat :=
    if word.startsWith "+" then ((amountOf "" 0 greatestNatural word).toOption).map Int.toNat else none
  let s := { s with skippedChars := ((operands.filterMap skip?).getLast?).getD s.skippedChars }
  let operands := operands.filter fun word => (skip? word).isNone
  match operands with
  | _ :: _ :: extra :: _ => failWithHelp name s!"extra operand {plainlyQuoted extra}" 1
  | _ => pure ()
  if s.groups?.isSome && s.isChosen then failWithHelp name "--group is mutually exclusive with -c/-d/-D/-u" 1
  if s.counts && s.showsLater then
    failWithHelp name "printing all duplicated lines and repeat counts is meaningless" 1
  let operand := operands.headD "-"
  let result ← readOperand operand
  match result with
  | .error fault => unless fault == .isDirectory do fail name (plainComplaint operand fault) 1
  | .ok _ => pure ()
  let output? := operands[1]?.filter (· != "-")
  match output? with
  | none => pure ()
  | some path =>
    match ← writeOperand path .empty with
    | .error fault => fail name (plainComplaint path fault) 1
    | .ok () => pure ()
  match result with
  | .error fault => fail name s!"error reading {shellQuoted operand}: {fault.text}" 1
  | .ok bytes =>
    let written := bytesOfLines s.ending (s.written (linesOf s.ending bytes).1)
    match output? with
    | none => put name written
    | some path =>
      let _ ← writeOperand path written
    pure 0

end Rebuild.Tool
