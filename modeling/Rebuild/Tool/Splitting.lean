import Rebuild.Tool.Amount
import Rebuild.Tool.Input
import Rebuild.Tool.Starting

/-!
# Files in pieces

`split` writes pieces of its input to files, whose names are a text with a suffix that counts them. The pieces have so
many lines or bytes each, or are so many.
-/

namespace Rebuild.Tool

open Text

/-- How the input is divided. -/
inductive SplitPlan where
  | lines (count : Nat)
  | bytes (count : Nat)
  /-- Whole lines of together so many bytes. -/
  | lineBytes (count : Nat)
  /-- So many pieces of as many bytes, of which one may be asked for. -/
  | pieces (wanted : Nat) (count : Nat)
  /-- So many pieces of whole lines. -/
  | linePieces (wanted : Nat) (count : Nat)
  /-- So many pieces to which lines go in turn. -/
  | turns (wanted : Nat) (count : Nat)

namespace SplitPlan

/-- How many pieces there are, if that is said. -/
def count? : SplitPlan → Option Nat
  | .pieces _ count | .linePieces _ count | .turns _ count => some count
  | _ => none

/-- The number of the only piece that is asked for, if there is one. -/
def wanted? : SplitPlan → Option Nat
  | .pieces wanted _ | .linePieces wanted _ | .turns wanted _ => if wanted == 0 then none else some wanted
  | _ => none

end SplitPlan

/-- How pieces are written. -/
structure SplitStyle where
  division? : Option SplitPlan := none
  /-- The number that digits after a dash spell, and the word that they stand in. -/
  digits? : Option Nat := none
  suffixLength : Nat := 0
  alphabet : List Char := "abcdefghijklmnopqrstuvwxyz".toList
  start? : Option String := none
  ending : String := ""
  leavesOutEmpty : Bool := false
  filter? : Option String := none
  announces : Bool := false
  separator? : Option Char := none

/-! ## Pieces -/

/-- The lengths of lines with their ends, given the length of what was seen of the first. -/
def lineLengths (separator : Char) (seen : Nat) : Line → List Nat
  | [] => if seen == 0 then [] else [seen]
  | c :: cs => if c == separator then (seen + 1) :: lineLengths separator 0 cs else lineLengths separator (seen + 1) cs

/-- Lengths in groups of so many, each with its sum, given what is in the first. -/
def groupedLengths (count held sum : Nat) : List Nat → List Nat
  | [] => if held == 0 then [] else [sum]
  | n :: ns =>
    if held + 1 == count then (sum + n) :: groupedLengths count 0 0 ns else groupedLengths count (held + 1) (sum + n) ns

/-- The lengths of pieces of so many bytes. -/
def evenLengths (limit count size : Nat) : List Nat :=
  match limit with
  | 0 => []
  | limit + 1 => if size == 0 then [] else min count size :: evenLengths limit count (size - count)

/-- The lengths of pieces of whole lines that have together at most so many bytes; longer lines are cut. -/
def lineByteLengths (limit count : Nat) (separator : Char) (cs : Array Char) (place : Nat) : List Nat :=
  match limit with
  | 0 => []
  | limit + 1 =>
    if cs.size ≤ place then []
    else if cs.size < place + count then [cs.size - place]
    else
      let part := cs.extract place (place + count)
      let after := (part.toList.reverse.takeWhile (· != separator)).length
      let length := if after == count then count else count - after
      length :: lineByteLengths limit count separator cs (place + length)

/-- The lengths of so many pieces, the first of which are longer by one. -/
def sharedLengths (count size : Nat) : List Nat :=
  (List.range count).map fun i => size / count + (if i < size % count then 1 else 0)

/-- The ends of so many pieces. -/
def sharedEnds (count size : Nat) : List Nat :=
  (List.range count).map fun i => (i + 1) * (size / count) + min (i + 1) (size % count)

/-- The lengths of pieces of whole lines: a line belongs to the piece in which it begins. -/
def linePieceLengths (lines : List (Nat × Nat)) : List Nat → List Nat
  | [] => []
  | stop :: stops =>
    let own := lines.takeWhile fun line => line.1 < stop
    let rest := lines.drop own.length
    (own.foldl (fun sum line => sum + line.2) 0) :: linePieceLengths rest stops

/-- The parts of an array that have these lengths. -/
def partsOf (cs : Array Char) (lengths : List Nat) : List Line :=
  (lengths.foldl (fun (state : Nat × List Line) n =>
    (state.1 + n, (cs.extract state.1 (state.1 + n)).toList :: state.2)) (0, [])).2.reverse

/-- The pieces of bytes. -/
def SplitPlan.parts (d : SplitPlan) (separator : Char) (cs : Line) : List Line :=
  let all := cs.toArray
  let lengths := lineLengths separator 0 cs
  match d with
  | .lines count => partsOf all (groupedLengths count 0 0 lengths)
  | .bytes count => partsOf all (evenLengths (all.size + 1) count all.size)
  | .lineBytes count => partsOf all (lineByteLengths (all.size + 1) count separator all 0)
  | .pieces _ count => partsOf all (sharedLengths count all.size)
  | .linePieces _ count =>
    let starts := (lengths.foldl (fun (state : Nat × List (Nat × Nat)) n =>
      (state.1 + n, (state.1, n) :: state.2)) (0, [])).2.reverse
    partsOf all (linePieceLengths starts (sharedEnds count all.size))
  | .turns _ count =>
    let lines := (partsOf all lengths).zipIdx
    (List.range count).map fun i => (lines.filter fun line => line.2 % count == i).flatMap Prod.fst

/-! ## Names -/

/-- How long suffixes are: as long as is said, or long enough for all pieces, and whether they may grow. -/
def SplitStyle.suffixes (name : String) (s : SplitStyle) (d : SplitPlan) : ToolM (Nat × Bool) := do
  let needed := match d.count? with
    | none => 0
    | some count =>
      let start := ((s.start?.bind String.toNat?).filter (· < count)).getD 0
      digitCount count s.alphabet.length (count - 1 + start)
  if s.suffixLength != 0 then
    if s.suffixLength < needed then fail name s!"the suffix length needs to be at least {needed}" 1
    pure (s.suffixLength, false)
  else pure (max 2 needed, s.start?.isNone && d.count?.isNone)
where
  /-- How many digits a number has to a base, at most so many. -/
  digitCount (limit base n : Nat) : Nat :=
    match limit with
    | 0 => 1
    | limit + 1 => if n < base then 1 else 1 + digitCount limit base (n / base)

/-- The digits of a number to a base, so many of them. -/
def suffixDigits (alphabet : List Char) (length n : Nat) : List Char :=
  (List.range length).reverse.map fun place =>
    alphabet.getD (n / Nat.pow alphabet.length place % alphabet.length) 'a'

/-- The suffix of the piece with a number, where suffixes grow: before all of one length are used, another begins. -/
def growingSuffix (limit : Nat) (alphabet : List Char) (length n : Nat) : List Char :=
  match limit with
  | 0 => suffixDigits alphabet length n
  | limit + 1 =>
    let base := alphabet.length
    let room := (base - 1) * Nat.pow base (length - 1)
    if n < room then suffixDigits alphabet length n
    else (alphabet.getLast?.getD 'z') :: growingSuffix limit alphabet length.succ (n - room)

/-- The suffix of the piece with a number, if there is one left. -/
def SplitStyle.suffix? (s : SplitStyle) (length : Nat) (grows : Bool) (n : Nat) : Option String :=
  if grows then some (String.ofList (growingSuffix 64 s.alphabet length n))
  else
    let base := s.alphabet.length
    let start := (s.start?.getD "").toList.foldl (fun n c => base * n + (s.alphabet.idxOf c)) 0
    if Nat.pow base length ≤ start + n then none
    else some (String.ofList (suffixDigits s.alphabet length (start + n)))

/-! ## Options -/

/-- The positive number that an argument is; one that is too large is as large as can be. -/
def readUnits (name complaint units text : String) : ToolM Nat := do
  match amountOf units 0 greatestInteger text with
  | .ok n => if 0 < n then pure n.toNat else fail name s!"{complaint}: {plainlyQuoted text}" 1
  | .error .malformed => fail name s!"{complaint}: {plainlyQuoted text}" 1
  | .error _ => pure greatestInteger.toNat

/-- The first of the pieces that are asked for, and how many there are. -/
def readPieces (name text : String) : ToolM (Nat × Nat) := do
  match text.toList.splitOnP (· == '/') with
  | [_] => pure (0, ← readUnits name "invalid number of chunks" "" text)
  | first :: rest =>
    let count := String.ofList (['/'].intercalate rest)
    let wanted? := (amountOf "" 0 greatestNatural (String.ofList first)).toOption
    match wanted? with
    | none => pure (0, ← readUnits name "invalid number of chunks" "" text)
    | some wanted =>
      let count ← readUnits name "invalid number of chunks" "" count
      if wanted == 0 || count < wanted.toNat then
        fail name s!"invalid chunk number: {plainlyQuoted (String.ofList first)}" 1
      pure (wanted.toNat, count)
  | [] => pure (0, 1)

/-- Divides the input in one way only. -/
def SplitStyle.dividing (name : String) (s : SplitStyle) (d : SplitPlan) : ToolM SplitStyle := do
  if s.division?.isSome || s.digits?.isSome then failWithHelp name "cannot split in more than one way" 1
  pure { s with division? := some d }

/-- Takes an option that says how the input is divided. -/
def splitDivision (name : String) (s : SplitStyle) (option text : String) : ToolM SplitStyle := do
  if s.division?.isSome || s.digits?.isSome then failWithHelp name "cannot split in more than one way" 1
  let count (complaint units : String) : ToolM Nat := readUnits name complaint units text
  match option with
  | "bytes" => s.dividing name (.bytes (← count "invalid number of bytes" usualUnits))
  | "lines" => s.dividing name (.lines (← count "invalid number of lines" ""))
  | "line-bytes" => s.dividing name (.lineBytes (← count "invalid number of lines" usualUnits))
  | _ =>
    let text := String.ofList (text.toList.dropWhile isSpaceByte)
    if text.startsWith "r/" then
      let (wanted, count) ← readPieces name (text.drop 2).toString
      s.dividing name (.turns wanted count)
    else if text.startsWith "l/" then
      let (wanted, count) ← readPieces name (text.drop 2).toString
      s.dividing name (.linePieces wanted count)
    else
      let (wanted, count) ← readPieces name text
      s.dividing name (.pieces wanted count)

/-- Takes an option that says how suffixes are written. -/
def splitSuffix (name : String) (s : SplitStyle) (isHex : Bool) (text? : Option String) : ToolM SplitStyle := do
  let alphabet := (if isHex then "0123456789abcdef" else "0123456789").toList
  let s := { s with alphabet }
  match text? with
  | none => pure s
  | some text =>
    if text.toList.all alphabet.contains then
      let rest := text.toList.dropWhile (· == '0')
      pure { s with start? := some (if rest.isEmpty then text.takeEnd 1 |>.toString else String.ofList rest) }
    else
      let kind := if isHex then "hexadecimal" else "numerical"
      failWithHelp name (plainlyQuoted text ++ s!": invalid start value for {kind} suffix") 1

/-- The separator of records that a text is. -/
def readSeparator (name : String) (s : SplitStyle) (text : String) : ToolM SplitStyle := do
  let c ← match byteChars text with
    | [] => fail name "empty record separator" 1
    | [c] => pure c
    | ['\\', '0'] => pure '\x00'
    | _ => fail name s!"multi-character separator {plainlyQuoted text}" 1
  if s.separator?.any (· != c) then fail name "multiple separator characters specified" 1
  pure { s with separator? := some c }

/-- Takes an option of `split`. -/
def splitOption (name : String) (s : SplitStyle) (given : Given) : ToolM SplitStyle := do
  let text := given.2.getD ""
  match given.1 with
  | "bytes" | "lines" | "line-bytes" | "number" => splitDivision name s given.1 text
  | "suffix-length" => pure { s with suffixLength := ← readCount name "invalid suffix length" "" 0 text }
  | "additional-suffix" =>
    if text.toList.contains '/' then
      failWithHelp name s!"invalid suffix {plainlyQuoted text}, contains directory separator" 1
    pure { s with ending := text }
  | "d" => splitSuffix name s false none
  | "x" => splitSuffix name s true none
  | "numeric-suffixes" => splitSuffix name s false given.2
  | "hex-suffixes" => splitSuffix name s true given.2
  | "elide-empty-files" => pure { s with leavesOutEmpty := true }
  | "filter" => pure { s with filter? := some text }
  | "verbose" => pure { s with announces := true }
  | "separator" => readSeparator name s text
  | "unbuffered" => pure s
  | digit =>
    if s.division?.isSome then failWithHelp name "cannot split in more than one way" 1
    pure { s with digits? := some (10 * s.digits?.getD 0 + digit.toNat?.getD 0) }

/-! ## Writing -/

/-- What is said of a piece before it is written. -/
def SplitStyle.announcement (s : SplitStyle) (path : String) : String :=
  if !s.announces then ""
  else if s.filter?.isSome then s!"executing with FILE={shellQuotedIfNeeded path}\n"
  else s!"creating file {shellQuoted path}\n"

/-- Writes a piece to its file, or to a program that is started for it. -/
def writePiece (launch : Launcher) (name : String) (s : SplitStyle) (path : String) (piece : Line) : ToolM Unit := do
  let bytes := bytesOfChars piece
  match s.filter? with
  | some command =>
    let start : ProcessM ExitStatus := fun p =>
      let (number, p) := p.openBuffer bytes none
      let environment := ("FILE", path) :: p.environment.filter (·.1 != "FILE")
      let (result, p) := launch "/bin/sh" ["sh", "-c", command] { p.direct 0 (some number) with environment }
      (result.toOption.getD (.exited 127), p)
    match ← ExceptT.lift (Process.inside start) with
    | .exited 0 => pure ()
    | .exited code => fail name s!"with FILE={shellQuotedIfNeeded path}, exit {code} from command: {command}" code.toNat
    | .terminated _ => fail name s!"with FILE={shellQuotedIfNeeded path}, signal from command: {command}" 1
  | none =>
    match ← writeOperand path bytes with
    | .ok () => pure ()
    | .error fault => fail name (plainComplaint path fault) 1

/-- Writes pieces of a file to files. -/
def split (launch : Launcher) : Tool := fun name args => do
  let rules : List OptionRule :=
    [⟨"a", "suffix-length", .required⟩, ⟨"b", "bytes", .required⟩, ⟨"C", "line-bytes", .required⟩, ⟨"d", "", .none⟩,
     ⟨"e", "elide-empty-files", .none⟩, ⟨"", "filter", .required⟩, ⟨"", "hex-suffixes", .optional⟩,
     ⟨"l", "lines", .required⟩, ⟨"n", "number", .required⟩, ⟨"", "numeric-suffixes", .optional⟩,
     ⟨"t", "separator", .required⟩, ⟨"u", "unbuffered", .none⟩, ⟨"", "verbose", .none⟩, ⟨"x", "", .none⟩,
     ⟨"", "additional-suffix", .required⟩] ++ "0123456789".toList.map fun c => ⟨c.toString, "", .none⟩
  let (s, operands) ← foldOptions name rules false 1 args {} (splitOption name)
  let division := s.division?.getD (.lines (s.digits?.getD 1000))
  if division.wanted?.isSome && s.filter?.isSome then
    failWithHelp name "--filter does not process a chunk extracted to stdout" 1
  if s.division?.isNone && s.digits? == some 0 then failWithHelp name "invalid number of lines: '0'" 1
  let (length, grows) ← s.suffixes name division
  match operands with
  | _ :: _ :: extra :: _ => failWithHelp name s!"extra operand {plainlyQuoted extra}" 1
  | _ => pure ()
  if s.start?.any fun start => length < start.length then
    failWithHelp name "numerical suffix start value is too large for the suffix length" 1
  let operand := operands.headD "-"
  match ← readOperand operand with
  | .error fault =>
    let sized := if division.count?.isSome then "cannot determine file size: " else ""
    fail name (if fault == .isDirectory then s!"{shellQuotedIfNeeded operand}: {sized}{fault.text}"
      else s!"cannot open {shellQuoted operand} for reading: {fault.text}") 1
  | .ok bytes =>
    let pieces := division.parts (s.separator?.getD '\n') (charsOfBytes bytes)
    match division.wanted? with
    | some wanted =>
      put name (bytesOfChars (pieces.getD (wanted - 1) []))
      pure 0
    | none =>
      let pieces := if s.leavesOutEmpty then pieces.filter fun piece => !piece.isEmpty else pieces
      let mut announced := ""
      for (piece, i) in pieces.zipIdx do
        match s.suffix? length grows i with
        | some suffix =>
          let path := operands[1]?.getD "x" ++ suffix ++ s.ending
          announced := announced ++ s.announcement path
          writePiece launch name s path piece
        | none =>
          say name announced
          fail name "output file suffixes exhausted" 1
      say name announced
      pure 0

end Rebuild.Tool
