import Rebuild.Tool.Amount
import Rebuild.Tool.Order
import Rebuild.Tool.Sorting

/-!
# Two sorted files

`comm` and `join` go through two files whose lines are in order, always taking the lesser line first. `comm` tells which
lines are in which file, `join` puts lines together that have a field in common. Both complain of lines that are out of
order, unless all lines have found a partner so far.
-/

namespace Rebuild.Tool

open Text

/-- When the order of lines is checked. -/
inductive OrderCheck where
  | ifUnpaired
  | always
  | never
deriving DecidableEq, Repr

/-! ## Lines in common -/

/-- How the lines of two files are printed. -/
structure CommonStyle where
  hidden : List Nat := []
  check : OrderCheck := .ifUnpaired
  separator? : Option String := none
  hasTotal : Bool := false
  ending : Char := '\n'

namespace CommonStyle

/-- What stands between columns. -/
def separator (s : CommonStyle) : Line :=
  match s.separator? with
  | none => ['\t']
  | some text => if text.isEmpty then ['\x00'] else byteChars text

/-- The line of a column as it is printed, if it is. -/
def shown (s : CommonStyle) (column : Nat) (line : Line) : Line :=
  if s.hidden.contains column then []
  else
    let before := [1, 2].filter fun c => c < column && !s.hidden.contains c
    before.flatMap (fun _ => s.separator) ++ line ++ [s.ending]

end CommonStyle

/-- The two lines of a file that were taken last. -/
abbrev Recent := Option Line × Option Line

/-- Where the comparison of two files has come. -/
structure CommonState where
  counts : Nat × Nat × Nat := (0, 0, 0)
  hasUnpaired : Bool := false
  isWarned : Bool × Bool := (false, false)

/-- Complains if a line of a file is before the one that came before it. -/
def checkCommon (name : String) (s : CommonStyle) (isFirst : Bool) (before after : Option Line) (state : CommonState) :
    ToolM CommonState := do
  let isWarned := if isFirst then state.isWarned.1 else state.isWarned.2
  match before, after with
  | some a, some b =>
    if s.check == .never || !(s.check == .always || state.hasUnpaired) || isWarned then pure state
    else if compareBytes a b == .gt then
      let text := s!"file {if isFirst then 1 else 2} is not in sorted order"
      if s.check == .always then fail name text 1
      complain name text
      pure { state with isWarned := if isFirst then (true, state.isWarned.2) else (state.isWarned.1, true) }
    else pure state
  | _, _ => pure state

/-- Goes on to the next line of a file, given the one before the first of its lines, and checks the order. -/
def stepCommon (name : String) (s : CommonStyle) (isFirst : Bool) (before : Option Line) (lines : List Line)
    (state : CommonState) : ToolM CommonState :=
  match lines with
  | a :: b :: _ => checkCommon name s isFirst (some a) (some b) state
  | [a] => checkCommon name s isFirst before (some a) state
  | [] => pure state

/-- Prints the lines of two files in columns, at most so many, given the lines before them. -/
def printCommon (name : String) (s : CommonStyle) (limit : Nat) (before : Recent) (as bs : List Line)
    (state : CommonState) : ToolM CommonState := do
  match limit with
  | 0 => pure state
  | limit + 1 =>
    let order? := match as, bs with
      | [], [] => none
      | [], _ => some Ordering.gt
      | _, [] => some .lt
      | a :: _, b :: _ => some (compareBytes a b)
    let (one, two, both) := state.counts
    match order? with
    | none => pure state
    | some .eq =>
      put name (bytesOfChars (s.shown 3 (bs.headD [])))
      let state := { state with counts := (one, two, both + 1) }
      let state ← stepCommon name s true before.1 as state
      let state ← stepCommon name s false before.2 bs state
      printCommon name s limit (as.head?, bs.head?) (as.drop 1) (bs.drop 1) state
    | some .lt =>
      put name (bytesOfChars (s.shown 1 (as.headD [])))
      let state ← stepCommon name s true before.1 as { state with counts := (one + 1, two, both), hasUnpaired := true }
      printCommon name s limit (as.head?, before.2) (as.drop 1) bs state
    | some .gt =>
      put name (bytesOfChars (s.shown 2 (bs.headD [])))
      let state ← stepCommon name s false before.2 bs { state with counts := (one, two + 1, both), hasUnpaired := true }
      printCommon name s limit (before.1, bs.head?) as (bs.drop 1) state

/-- Takes an option of `comm`. -/
def commonOption (name : String) (s : CommonStyle) (given : Given) : ToolM CommonStyle := do
  match given with
  | ("check-order", _) => pure { s with check := .always }
  | ("nocheck-order", _) => pure { s with check := .never }
  | ("output-delimiter", some text) =>
    if s.separator?.any (· != text) then fail name "multiple output delimiters specified" 1
    pure { s with separator? := some text }
  | ("total", _) => pure { s with hasTotal := true }
  | ("zero-terminated", _) => pure { s with ending := '\x00' }
  | (column, _) => pure { s with hidden := column.toNat?.getD 0 :: s.hidden }

/-- The lines of two files; the input is shared if both are it. -/
def readPair (name first second : String) (ending : Char) : ToolM (List Line × List Line) := do
  let read (operand : String) : ToolM (List Line) := do
    match ← readOperand operand with
    | .ok bytes => pure (linesOf ending bytes).1
    | .error fault => fail name (plainComplaint operand fault) 1
  for operand in [first, second] do
    if operand != "-" then
      match (← disk).get operand with
      | .error fault => fail name (plainComplaint operand fault) 1
      | .ok _ => pure ()
  pure (← read first, ← read second)

/-- Prints the lines of two sorted files in columns. -/
def comm : Tool := fun name args => do
  let rules : List OptionRule :=
    [⟨"1", "", .none⟩, ⟨"2", "", .none⟩, ⟨"3", "", .none⟩, ⟨"", "check-order", .none⟩, ⟨"", "nocheck-order", .none⟩,
     ⟨"", "output-delimiter", .required⟩, ⟨"", "total", .none⟩, ⟨"z", "zero-terminated", .none⟩]
  let (s, operands) ← foldOptions name rules false 1 args {} (commonOption name)
  match operands with
  | [] => failWithHelp name "missing operand" 1
  | [_] => failWithHelp name ("missing operand after " ++ plainlyQuoted (args.getLast?.getD "")) 1
  | _ :: _ :: extra :: _ => failWithHelp name s!"extra operand {plainlyQuoted extra}" 1
  | [first, second] =>
    let (as, bs) ← readPair name first second s.ending
    let state ← printCommon name s (as.length + bs.length + 1) (none, none) as bs {}
    if s.hasTotal then
      let (one, two, both) := state.counts
      let fields := [one, two, both].map fun n => byteChars (toString n)
      put name (bytesOfChars (s.separator.intercalate (fields ++ [byteChars "total"]) ++ [s.ending]))
    if state.isWarned.1 || state.isWarned.2 then fail name "input is not in sorted order" 1
    pure 0

/-! ## Joined lines -/

/-- A field that is printed: the one in common, or that with a number in the first or the second file. -/
inductive JoinField where
  | shared
  | field (isFirst : Bool) (number : Nat)
deriving DecidableEq, Repr

/-- How lines are joined. -/
structure JoinStyle where
  field1? : Option Nat := none
  field2? : Option Nat := none
  showsPairs : Bool := true
  showsSingle1 : Bool := false
  showsSingle2 : Bool := false
  filler? : Option String := none
  format : List JoinField := []
  isAutomatic : Bool := false
  separator? : Option Char := none
  ignoresCase : Bool := false
  check : OrderCheck := .ifUnpaired
  hasHeader : Bool := false
  ending : Char := '\n'

/-- A line with its number and its fields. -/
structure Joinable where
  number : Nat
  line : Line
  fields : Array Line

/-- The fields of a line without its first blanks. Blanks at the end have an empty field after them. -/
def blankFields (limit : Nat) (cs : Line) : List Line :=
  match limit with
  | 0 => []
  | limit + 1 =>
    let field := cs.takeWhile fun c => !isFieldBlank c
    match cs.drop field.length with
    | [] => [field]
    | rest =>
      match rest.dropWhile isFieldBlank with
      | [] => [field, []]
      | rest => field :: blankFields limit rest

namespace JoinStyle

/-- The place of the field in common in a file. -/
def place (s : JoinStyle) (isFirst : Bool) : Nat :=
  (if isFirst then s.field1? else s.field2?).getD 0

/-- Whether lines without a partner are printed. -/
def showsSingle (s : JoinStyle) (isFirst : Bool) : Bool :=
  if isFirst then s.showsSingle1 else s.showsSingle2

/-- The fields of a line. -/
def fieldsOf (s : JoinStyle) (line : Line) : List Line :=
  if line.isEmpty then []
  else
    match s.separator? with
    | some '\n' => [line]
    | some c => line.splitOnP (· == c)
    | none =>
      match line.dropWhile isFieldBlank with
      | [] => []
      | rest => blankFields (rest.length + 1) rest

/-- Compares the fields in common of two lines. -/
def compare (s : JoinStyle) (firstPlace secondPlace : Nat) (a b : Joinable) : Ordering :=
  let key (x : Joinable) (place : Nat) : Line :=
    let field := x.fields[place]?.getD []
    if s.ignoresCase then field.map Char.toUpper else field
  compareBytes (key a firstPlace) (key b secondPlace)

/-- The field of a line with a place, as it is printed. -/
def shownField (s : JoinStyle) (line? : Option Joinable) (place : Nat) : Line :=
  let field := (line?.bind fun line => line.fields[place]?).getD []
  if field.isEmpty then byteChars (s.filler?.getD "") else field

/-- The line that two lines make, one of which may be missing, given how many fields lines have in a format that follows
the first of them. -/
def joinedLine (s : JoinStyle) (counts : Nat × Nat) (a b : Option Joinable) : Line :=
  let (leader, leaderPlace) := if a.isNone then (b, s.place false) else (a, s.place true)
  let others (line : Option Joinable) (place count : Nat) : List Line :=
    let count := if s.isAutomatic then count else (line.map fun line => line.fields.size).getD 0
    ((List.range count).filter (· != place)).map (s.shownField line)
  let fields :=
    if s.format.isEmpty then
      s.shownField leader leaderPlace :: (others a (s.place true) counts.1 ++ others b (s.place false) counts.2)
    else
      s.format.map fun
        | .shared => s.shownField leader leaderPlace
        | .field isFirst number => s.shownField (if isFirst then a else b) number
  [s.separator?.getD ' '].intercalate fields ++ [s.ending]

end JoinStyle

/-- What was seen of the lines of a file: the one before the next, whether it was complained of, and what is left. -/
structure JoinSource where
  rest : List Joinable
  last? : Option Joinable := none
  isWarned : Bool := false

/-- Where the joining of two files has come. -/
structure JoinState where
  first : JoinSource
  second : JoinSource
  hasUnpaired : Bool := false

/-- What is done while two files are joined. -/
abbrev JoinM := StateT JoinState ToolM

namespace JoinStyle

/-- Takes the next line of a file and checks that it is in order. -/
def next (s : JoinStyle) (name path : String) (isFirst : Bool) : JoinM (Option Joinable) := do
  let state ← get
  let source := if isFirst then state.first else state.second
  match source.rest with
  | [] => pure none
  | line :: rest =>
    let isChecked := s.check == .always || (s.check == .ifUnpaired && state.hasUnpaired)
    let isWrong := source.last?.any fun last => s.compare (s.place isFirst) (s.place isFirst) last line == .gt
    let isNoted := isChecked && !source.isWarned && isWrong
    if isNoted then
      let text := s!"{path}:{line.number}: is not sorted: " ++ ofByteChars line.line
      if s.check == .always then fail name text 1
      else complain name text
    let source : JoinSource := ⟨rest, some line, source.isWarned || isNoted⟩
    set (if isFirst then { state with first := source } else { state with second := source })
    pure (some line)

/-- Notes that a line has no partner. -/
def noteUnpaired : JoinM Unit :=
  modify fun state => { state with hasUnpaired := true }

/-- Takes lines of a file, at most so many, as long as they go with a line of the other; the line after them is told. -/
def nextAlike (s : JoinStyle) (name path : String) (isFirst : Bool) (partner : Joinable) (limit : Nat) :
    JoinM (List Joinable × Option Joinable) := do
  match limit with
  | 0 => pure ([], none)
  | limit + 1 =>
    match ← s.next name path isFirst with
    | none => pure ([], none)
    | some line =>
      let order := if isFirst then s.compare (s.place true) (s.place false) line partner
        else s.compare (s.place true) (s.place false) partner line
      if order == .eq then
        let (lines, after) ← s.nextAlike name path isFirst partner limit
        pure (line :: lines, after)
      else pure ([], some line)

/-- Goes through the rest of a file, at most so many lines, when the other is at its end. -/
def finish (s : JoinStyle) (name path : String) (counts : Nat × Nat) (isFirst : Bool) (limit : Nat) : JoinM Unit := do
  match limit with
  | 0 => pure ()
  | limit + 1 =>
    match ← s.next name path isFirst with
    | none => pure ()
    | some line =>
      if s.showsSingle isFirst then
        let lines := if isFirst then (some line, none) else (none, some line)
        put name (bytesOfChars (s.joinedLine counts lines.1 lines.2))
      let state ← get
      let isWarned := if isFirst then state.first.isWarned else state.second.isWarned
      if isWarned && !s.showsSingle isFirst then pure ()
      else s.finish name path counts isFirst limit

/-- Joins the lines of two files from two lines on, at most so many, and tells what is left when one file is at its
end. -/
def pair (s : JoinStyle) (name : String) (paths : String × String) (counts : Nat × Nat) (limit : Nat)
    (a b : Option Joinable) : JoinM (Option Joinable × Option Joinable) := do
  match limit, a, b with
  | limit + 1, some x, some y =>
    match s.compare (s.place true) (s.place false) x y with
    | .lt =>
      if s.showsSingle1 then put name (bytesOfChars (s.joinedLine counts a none))
      let a ← s.next name paths.1 true
      noteUnpaired
      s.pair name paths counts limit a b
    | .gt =>
      if s.showsSingle2 then put name (bytesOfChars (s.joinedLine counts none b))
      let b ← s.next name paths.2 false
      noteUnpaired
      s.pair name paths counts limit a b
    | .eq =>
      let state ← get
      let (xs, a) ← s.nextAlike name paths.1 true y (state.first.rest.length + 1)
      let (ys, b) ← s.nextAlike name paths.2 false x (state.second.rest.length + 1)
      if s.showsPairs then
        for x in x :: xs do
          for y in y :: ys do
            put name (bytesOfChars (s.joinedLine counts (some x) (some y)))
      s.pair name paths counts limit a b
  | _, _, _ => pure (a, b)

/-- Joins two files. -/
def joinAll (s : JoinStyle) (name : String) (paths : String × String) : JoinM Unit := do
  let a ← s.next name paths.1 true
  let b ← s.next name paths.2 false
  let size (line : Option Joinable) : Nat := (line.map fun line => line.fields.size).getD 0
  let counts := (size a, size b)
  let state ← get
  let limit := state.first.rest.length + state.second.rest.length + 2
  let (a, b) ←
    if s.hasHeader && (a.isSome || b.isSome) then do
      put name (bytesOfChars (s.joinedLine counts a b))
      modify fun state => { state with
        first := { state.first with last? := none }
        second := { state.second with last? := none } }
      let a ← if a.isSome then s.next name paths.1 true else pure none
      let b ← if b.isSome then s.next name paths.2 false else pure none
      pure (a, b)
    else pure (a, b)
  let (a, b) ← s.pair name paths counts limit a b
  let state ← get
  let checksEnd := s.check != .never && !(state.first.isWarned && state.second.isWarned)
  if a.isSome && (s.showsSingle1 || checksEnd) then
    if s.showsSingle1 then put name (bytesOfChars (s.joinedLine counts a none))
    if b.isSome then noteUnpaired
    s.finish name paths.1 counts true limit
  if b.isSome && (s.showsSingle2 || checksEnd) then
    if s.showsSingle2 then put name (bytesOfChars (s.joinedLine counts none b))
    if a.isSome then noteUnpaired
    s.finish name paths.2 counts false limit

end JoinStyle

/-! ## Options of joining -/

/-- The field that a text of digits says, counted from zero. -/
def readJoinField (name text : String) : ToolM Nat := do
  match amountOf "" 0 greatestNatural text with
  | .ok n => if 0 < n then pure (n.toNat - 1) else fail name s!"invalid field number: {plainlyQuoted text}" 1
  | .error .malformed => fail name s!"invalid field number: {plainlyQuoted text}" 1
  | .error _ => pure (greatestNatural.toNat - 1)

/-- Sets the field in common of one file or of both. -/
def setJoinField (name : String) (s : JoinStyle) (inFirst inSecond : Bool) (place : Nat) : ToolM JoinStyle := do
  let check (before? : Option Nat) : ToolM Unit := do
    match before? with
    | some before =>
      if before != place then fail name s!"incompatible join fields {before}, {place}" 1
    | none => pure ()
  if inFirst then check s.field1?
  if inSecond then check s.field2?
  pure { s with
    field1? := if inFirst then some place else s.field1?
    field2? := if inSecond then some place else s.field2? }

/-- The field that a text says is printed. -/
def readFormatField (name text : String) : ToolM JoinField := do
  match text.toList with
  | ['0'] => pure .shared
  | '1' :: '.' :: rest => pure (.field true (← readJoinField name (String.ofList rest)))
  | '2' :: '.' :: rest => pure (.field false (← readJoinField name (String.ofList rest)))
  | c :: _ =>
    if c == '0' || c == '1' || c == '2' then fail name s!"invalid field specifier: {plainlyQuoted text}" 1
    else fail name s!"invalid file number in field spec: {plainlyQuoted text}" 1
  | [] => fail name s!"invalid file number in field spec: {plainlyQuoted text}" 1

/-- Adds the fields that a text lists to those that are printed. -/
def addFormat (name : String) (s : JoinStyle) (text : String) : ToolM JoinStyle := do
  let words := (text.toList.splitOnP fun c => c == ',' || c == ' ' || c == '\t').map String.ofList
  let fields ← words.mapM (readFormatField name)
  pure { s with format := s.format ++ fields }

/-- Takes an option of `join`. -/
def joinOption (name : String) (s : JoinStyle) (given : Given) : ToolM JoinStyle := do
  let text := given.2.getD ""
  match given.1 with
  | "a" | "v" =>
    let s := if given.1 == "v" then { s with showsPairs := false } else s
    match (amountOf "" (-greatestInteger) greatestInteger text).toOption with
    | some 1 => pure { s with showsSingle1 := true }
    | some 2 => pure { s with showsSingle2 := true }
    | _ => fail name s!"invalid field number: {plainlyQuoted text}" 1
  | "e" =>
    if s.filler?.any (· != text) then fail name "conflicting empty-field replacement strings" 1
    pure { s with filler? := some text }
  | "ignore-case" => pure { s with ignoresCase := true }
  | "1" => setJoinField name s true false (← readJoinField name text)
  | "2" => setJoinField name s false true (← readJoinField name text)
  | "j" => setJoinField name s true true (← readJoinField name text)
  | "o" => if text == "auto" then pure { s with isAutomatic := true } else addFormat name s text
  | "t" =>
    if text.isEmpty then
      if s.separator?.any (· != '\n') then fail name "incompatible tabs" 1
      pure { s with separator? := some '\n' }
    else pure { s with separator? := some (← readFieldSeparator name 1 s.separator? text) }
  | "zero-terminated" => pure { s with ending := '\x00' }
  | "check-order" => pure { s with check := .always }
  | "nocheck-order" => pure { s with check := .never }
  | "header" => pure { s with hasHeader := true }
  | _ => pure s

/-- The names that were found: at most two, each with whether it may say instead which fields are printed, and whether
that may also be said of the next word. -/
structure JoinNames where
  names : List (String × Bool) := []
  mayBeFormat : Bool := false

/-- Takes a name. A third one makes the first of those that may say which fields are printed do so. -/
def takeJoinName (name : String) (s : JoinStyle) (n : JoinNames) (word : String) : ToolM (JoinStyle × JoinNames) := do
  let added : String × Bool := (word, n.mayBeFormat)
  match n.names with
  | [(format, true), other] => pure (← addFormat name s format, { n with names := [other, added] })
  | [other, (format, true)] => pure (← addFormat name s format, { n with names := [other, added] })
  | [_, _] => failWithHelp name s!"extra operand {shellQuoted word}" 1
  | names => pure (s, { n with names := names ++ [added] })

/-- Prints the lines of two sorted files that have a field in common. -/
def join : Tool := fun name args => do
  let rules : List OptionRule :=
    [⟨"1", "", .required⟩, ⟨"2", "", .required⟩, ⟨"j", "", .required⟩, ⟨"t", "", .required⟩, ⟨"a", "", .required⟩,
     ⟨"i", "ignore-case", .none⟩, ⟨"e", "", .required⟩, ⟨"o", "", .required⟩, ⟨"v", "", .required⟩,
     ⟨"z", "zero-terminated", .none⟩, ⟨"", "check-order", .none⟩, ⟨"", "nocheck-order", .none⟩, ⟨"", "header", .none⟩]
  let (s, n) ← foldWords name rules false 1 args (({} : JoinStyle), ({} : JoinNames)) fun (s, n) argument => do
    match argument with
    | .option given =>
      pure (← joinOption name s given, { n with mayBeFormat := given.1 == "o" && given.2 != some "auto" })
    | .operand word => takeJoinName name s n word
  match n.names.map Prod.fst with
  | [] => failWithHelp name "missing operand" 1
  | [_] => failWithHelp name ("missing operand after " ++ plainlyQuoted (args.getLast?.getD "")) 1
  | first :: second :: _ =>
    if first == "-" && second == "-" then fail name "both files cannot be standard input" 1
    let (as, bs) ← readPair name first second s.ending
    let source (lines : List Line) : JoinSource :=
      { rest := lines.zipIdx.map fun (line, i) => ⟨i + 1, line, (s.fieldsOf line).toArray⟩ }
    let (_, state) ← (s.joinAll name (first, second)).run { first := source as, second := source bs }
    if state.first.isWarned || state.second.isWarned then fail name "input is not in sorted order" 1
    pure 0

end Rebuild.Tool
