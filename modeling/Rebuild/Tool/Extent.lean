import Rebuild.Tool.Amount
import Rebuild.Tool.Input
import Rebuild.Tool.Starting

/-!
# Beginnings and ends of files

`head` prints the beginning of each file, `tail` its end: so many bytes or lines, or all but so many.
-/

namespace Rebuild.Tool

open Text

/-- How much of a file is printed. -/
structure Extent where
  countsBytes : Bool
  count : Nat
  /-- Whether the number has the sign that makes it count from the other end. -/
  isOther : Bool
  /-- What ends a line. -/
  ending : Char

/-- How many bytes there are up to and with so many line ends, after so many others. -/
def lengthOfLines (ending : Char) (count : Nat) (cs : Line) (seen : Nat) : Nat :=
  match count, cs with
  | 0, _ => seen
  | _, [] => seen
  | count + 1, c :: cs => lengthOfLines ending (if c == ending then count else count + 1) cs (seen + 1)

/-- How many lines bytes have, the last of which may not be ended. -/
def lineCount (ending : Char) (cs : Line) : Nat :=
  (cs.filter (· == ending)).length + (if cs.isEmpty || cs.getLast? == some ending then 0 else 1)

/-- The beginning of a file that is printed. -/
def Extent.beginning (e : Extent) (cs : Line) : Line :=
  cs.take (if e.countsBytes then (if e.isOther then cs.length - e.count else e.count)
    else lengthOfLines e.ending (if e.isOther then lineCount e.ending cs - e.count else e.count) cs 0)

/-- The end of a file that is printed. -/
def Extent.conclusion (e : Extent) (cs : Line) : Line :=
  cs.drop (if e.countsBytes then (if e.isOther then e.count - 1 else cs.length - e.count)
    else lengthOfLines e.ending (if e.isOther then e.count - 1 else lineCount e.ending cs - e.count) cs 0)

/-- Whether the beginning of a file that is printed is as long as it may be. -/
def Extent.isReached (e : Extent) (shown : Line) : Bool :=
  if e.countsBytes then shown.length == e.count else (shown.filter (· == e.ending)).length == e.count

/-- What is printed of files. -/
structure ExtentStyle where
  extent : Extent := ⟨false, 10, false, '\n'⟩
  /-- Whether names are printed, if that does not depend on how many there are. -/
  isHeaded? : Option Bool := none
  /-- Whether a file is printed as it grows. -/
  follows : Bool := false
  retries : Bool := false
  waitsFor : Option Nat := none

namespace ExtentStyle

/-- Whether names are printed with so many of them. -/
def isHeaded (s : ExtentStyle) (count : Nat) : Bool :=
  s.isHeaded?.getD (1 < count)

/-- Takes a letter that changes nothing but how files are shown. -/
def withLetter? (s : ExtentStyle) : Char → Option ExtentStyle
  | 'q' => some { s with isHeaded? := some false }
  | 'v' => some { s with isHeaded? := some true }
  | 'z' => some { s with extent := { s.extent with ending := '\x00' } }
  | _ => none

/-- Counts bytes or lines. -/
def counting (s : ExtentStyle) (countsBytes : Bool) (count : Nat) (isOther : Bool) : ExtentStyle :=
  { s with extent := { s.extent with countsBytes, count, isOther } }

end ExtentStyle

/-- The name of a file as its heading and complaints show it. -/
def shownName (operand : String) : String :=
  if operand == "-" then "standard input" else operand

/-- What is wrong with a file of which a part is to be printed. -/
def extentComplaint (operand : String) (fault : SystemFault) : String :=
  if fault == .isDirectory || fault == .badDescriptor then
    s!"error reading {shellQuoted (shownName operand)}: {fault.text}"
  else s!"cannot open {shellQuoted operand} for reading: {fault.text}"

/-- The number of a count of lines or bytes. -/
def readExtent (name : String) (countsBytes : Bool) (text : String) : ToolM Nat :=
  readCount name (if countsBytes then "invalid number of bytes" else "invalid number of lines") usualUnits 0 text

/-- The options that beginnings and ends have in common. -/
def extentRules : List OptionRule :=
  [⟨"n", "lines", .required⟩, ⟨"c", "bytes", .required⟩, ⟨"q", "quiet", .none⟩, ⟨"", "silent", .none⟩,
   ⟨"v", "verbose", .none⟩, ⟨"z", "zero-terminated", .none⟩] ++
    "0123456789".toList.map fun c => ⟨c.toString, "", .none⟩

/-- Takes an option that only tells how files are shown. -/
def ExtentStyle.withShown (s : ExtentStyle) (option : String) : ExtentStyle :=
  let letter := match option with
    | "quiet" | "silent" => 'q'
    | "verbose" => 'v'
    | _ => 'z'
  (s.withLetter? letter).getD s

/-- Prints the names and the parts of files. -/
def printExtents (name : String) (s : ExtentStyle) (operands : List String)
    (action : String → ToolM (Except SystemFault Unit)) : ToolM Nat := do
  let names := orInput operands
  let isHeaded := s.isHeaded names.length
  let mut code := 0
  let mut isFirst := true
  for operand in names do
    let isMissing := operand != "-" && !(← disk).isThere operand
    if isHeaded && !isMissing then
      say name ((if isFirst then "" else "\n") ++ s!"==> {shownName operand} <==\n")
      isFirst := false
    match ← action operand with
    | .ok () => pure ()
    | .error fault =>
      complain name (extentComplaint operand fault)
      code := 1
  pure code

/-! ## Beginnings -/

/-- The style that a first argument of digits and letters after a dash asks for. -/
def headCount (name : String) (s : ExtentStyle) (word : List Char) : ToolM ExtentStyle := do
  let digits := word.takeWhile Char.isDigit
  let step (state : ExtentStyle × List Char) (c : Char) : ToolM (ExtentStyle × List Char) := do
    let (s, unit) := state
    match c, s.withLetter? c with
    | 'c', _ => pure (s.counting true 0 false, [])
    | 'l', _ => pure (s.counting false 0 false, unit)
    | _, some s => pure (s, unit)
    | _, none =>
      if "bkm".toList.contains c then pure (s.counting true 0 false, [c])
      else failWithHelp name s!"invalid trailing option -- {c}" 1
  let (s, unit) ← (word.drop digits.length).foldlM step (s, [])
  pure (s.counting s.extent.countsBytes (← readExtent name s.extent.countsBytes (String.ofList (digits ++ unit))) false)

/-- Takes an option of `head`. -/
def headOption (name : String) (s : ExtentStyle) (given : Given) : ToolM ExtentStyle := do
  let (option, argument) := given
  match option, argument with
  | "lines", some text | "bytes", some text =>
    let isOther := text.startsWith "-"
    let countsBytes := option == "bytes"
    let count ← readExtent name countsBytes (if isOther then (text.drop 1).toString else text)
    pure (s.counting countsBytes count isOther)
  | option, _ =>
    if (natural? option).isSome then failWithHelp name s!"invalid trailing option -- {option}" 1
    else pure (s.withShown option)

/-- Prints the beginning of a file. What is left of the input can be read afterwards, of a pipe as far as whole blocks
were not taken for lines. -/
def showBeginning (name : String) (e : Extent) (operand : String) : ToolM (Except SystemFault Unit) := do
  if e.count == 0 && !e.isOther then
    let d ← disk
    return if operand == "-" then .ok () else (d.get operand).map fun _ => ()
  let p ← getThe Process
  match ← readOperand operand with
  | .error fault => pure (.error fault)
  | .ok bytes =>
    let shown := e.beginning (charsOfBytes bytes)
    if operand == "-" then
      let isFile := match p.file? 0 with
        | some (_, file) => match file.channel with
          | .node _ => true
          | _ => false
        | none => false
      let block := 8192
      if isFile || (e.countsBytes && !e.isOther) then set (p.skip 0 shown.length)
      else if !e.isOther then set (p.skip 0 (min bytes.size ((shown.length + block - 1) / block * block)))
    if !e.isOther && e.isReached shown then haveEnough
    else if operand == "-" then modify fun after => after.reachEndOf 0
    put name (bytesOfChars shown)
    pure (.ok ())

/-- Prints the beginning of files. -/
def head : Tool := fun name args => do
  let (start, args) ← match args with
    | word :: rest =>
      match word.toList with
      | '-' :: c :: cs => if c.isDigit then pure (← headCount name {} (c :: cs), rest) else pure ({}, args)
      | _ => pure ({}, args)
    | [] => pure ({}, args)
  let (style, operands) ← foldOptions name extentRules false 1 args start (headOption name)
  printExtents name style operands (showBeginning name style.extent)

/-! ## Ends -/

/-- The style that the first of a few arguments asks for: a sign, digits, a unit, and whether the file is followed. -/
def tailCount? (name : String) (args : List String) : ToolM (Option ExtentStyle) := do
  let isOperand (word : String) : Bool := !(word.startsWith "-" && 1 < word.length)
  let fits := match args with
    | [_] => true
    | [_, word] => isOperand word || word == "--"
    | [_, word, _] => word == "--"
    | _ => false
  let text := args.headD ""
  let body := text.toList.drop 1
  let digits := body.takeWhile Char.isDigit
  let rest := body.drop digits.length
  let (unit?, rest) := match rest with
    | 'b' :: rest => (some 'b', rest)
    | 'c' :: rest => (some 'c', rest)
    | 'l' :: rest => (some 'l', rest)
    | rest => (none, rest)
  let follows := rest == ['f']
  let isPlus := text.startsWith "+"
  let isDash := text.startsWith "-" && body != [] && body != ['c']
  if !fits || !(isPlus || isDash) || !(rest.isEmpty || follows) then pure none
  else
    let size := if unit? == some 'b' then 512 else 1
    let count := if digits.isEmpty then 10 * size else (String.ofList digits).toNat?.getD 0 * size
    if greatestNatural < count then
      fail name s!"invalid number: {plainlyQuoted text}{AmountFault.outOfRange.text}" 1
    let style : ExtentStyle := { follows }
    pure (some (style.counting (unit? == some 'b' || unit? == some 'c') count isPlus))

/-- Takes an option of `tail`. -/
def tailOption (name : String) (s : ExtentStyle) (given : Given) : ToolM ExtentStyle := do
  let (option, argument) := given
  match option, argument with
  | "lines", some text | "bytes", some text =>
    let countsBytes := option == "bytes"
    let count ← readExtent name countsBytes (if text.startsWith "-" then (text.drop 1).toString else text)
    pure (s.counting countsBytes count (s.extent.isOther || text.startsWith "+"))
  | "follow", none => pure { s with follows := true }
  | "follow", some text =>
    let _ ← readChoice name "--follow" 1 [("descriptor", false), ("name", true)] text
    pure { s with follows := true }
  | "F", _ => pure { s with follows := true }
  | "retry", _ => pure { s with retries := true }
  | "pid", some text => pure { s with waitsFor := some (← readAmount name "invalid PID" 1 "" 0 2147483647 text).toNat }
  | "sleep-interval", some text =>
    match RealValue.front? .double text.toList with
    | some (.finite false _ _, []) | some (.infinite false, []) => pure s
    | _ => fail name s!"invalid number of seconds: {plainlyQuoted text}" 1
  | "max-unchanged-stats", some text => do
    let _ ← readAmount name "invalid maximum number of unchanged stats between opens" 1 "" 0 greatestNatural text
    pure s
  | option, _ =>
    if (natural? option).isSome then fail name s!"option used in invalid context -- {option}" 1
    else pure (s.withShown option)

/-- Prints the end of a file. What cannot be read once its beginning was left out ends the program. -/
def showConclusion (name : String) (e : Extent) (operand : String) : ToolM (Except SystemFault Unit) := do
  match ← readOperand operand with
  | .error fault =>
    if fault == .isDirectory && e.isOther && (e.countsBytes || e.count ≤ 1) then
      fail name (extentComplaint operand fault) 1
    else pure (.error fault)
  | .ok bytes =>
    put name (bytesOfChars (e.conclusion (charsOfBytes bytes)))
    pure (.ok ())

/-- The nanoseconds after which nobody waits for a file to grow. -/
def longWait : Nat := 1000000000000000000

/-- Prints the end of files. -/
def tail : Tool := fun name args => do
  let rules : List OptionRule := extentRules ++
    [⟨"f", "follow", .optional⟩, ⟨"F", "", .none⟩, ⟨"", "pid", .required⟩, ⟨"", "retry", .none⟩,
     ⟨"s", "sleep-interval", .required⟩, ⟨"", "max-unchanged-stats", .required⟩]
  let (start, args) ← match ← tailCount? name args with
    | some style => pure (style, args.drop 1)
    | none => pure ({}, args)
  let (style, operands) ← foldOptions name rules false 1 args start (tailOption name)
  if style.retries && !style.follows then
    complain name "warning: --retry ignored; --retry is useful only when following"
  if style.waitsFor.isSome && !style.follows then
    complain name "warning: PID ignored; --pid=PID is useful only when following"
  if style.extent.count == 0 && !style.extent.isOther && !style.follows then pure 0
  else
    let code ← printExtents name style operands (showConclusion name style.extent)
    if style.follows && operands.any (· != "-") && code == 0 then
      if ← Process.pass longWait then throw (.terminated (some 15))
    pure code

end Rebuild.Tool
