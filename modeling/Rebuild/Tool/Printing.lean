import Rebuild.Text.Printf
import Rebuild.Tool.Amount
import Rebuild.Tool.Input

/-!
# Programs that print texts of their arguments

They print their arguments as they are or by a format.
-/

namespace Rebuild.Tool

open Text

/-! ## Texts given as arguments -/

/-- Prints its arguments with blanks between them. -/
def echo : Tool := fun name args => do
  let isFlag (arg : String) : Bool :=
    match arg.toList with
    | '-' :: c :: cs => (c :: cs).all fun c => c == 'n' || c == 'e' || c == 'E'
    | _ => false
  let flags := (args.takeWhile isFlag).flatMap fun arg => arg.toList.drop 1
  let text := " ".intercalate (args.dropWhile isFlag)
  let escapes := (flags.reverse.find? (· != 'n')) == some 'e'
  let (bytes, ending) := if escapes then Printing.unescape Escape.inEcho (text.length + 1) text.toList
    else (toBytes text, none)
  put name (if !flags.contains 'n' && ending.isNone then bytes.push 10 else bytes)
  pure 0

/-- The wording of what is wrong with a format or its arguments. -/
def printfComplaint : PrintfFault → String
  | .notNumeric arg => s!"{plainlyQuoted arg}: expected a numeric value"
  | .notComplete arg => s!"{plainlyQuoted arg}: value not completely converted"
  | .outOfRange arg => s!"{plainlyQuoted arg}: Numerical result out of range"
  | .afterCharacter rest => s!"warning: {rest}: character(s) following character constant have been ignored"
  | .noDirective directive => s!"{directive}: invalid conversion specification"
  | .noConversion => "%: invalid conversion specification"
  | .invalidWidth arg => s!"invalid field width: {plainlyQuoted arg}"
  | .invalidPrecision arg => s!"invalid precision: {plainlyQuoted arg}"
  | .noDigits => "missing hexadecimal number in escape"
  | .noCharacter written => s!"invalid universal character name {written}"

/-- Prints its arguments by a format. -/
def printf : Tool := fun name args => do
  let args := if args.head? == some "--" then args.drop 1 else args
  match args with
  | [] => failWithHelp name "missing operand" 1
  | format :: args =>
    let p := Text.printf .full format args
    let mut shown := 0
    for (place, fault) in p.faults.reverse do
      put name (p.output.extract shown place)
      shown := place
      complain name (printfComplaint fault)
    put name (p.output.extract shown p.output.size)
    match p.isOver, p.args with
    | false, arg :: _ => complain name ("warning: ignoring excess arguments, starting with " ++ plainlyQuoted arg)
    | _, _ => pure ()
    pure (if p.faults.all fun fault => fault.2.isWarning then 0 else 1)

/-- Prints a line again and again, as long as somebody can be thought to read it. -/
def yes : Tool := fun name args => do
  let line := toBytes ((if args.isEmpty then "y" else " ".intercalate args) ++ "\n")
  let count := (← getThe Process).patience / line.size + 1
  put name ((List.range count).foldl (fun bytes _ => bytes ++ line) .empty)
  put name line
  pure 0

end Rebuild.Tool
