import Rebuild.Text.ShellQuoted
import Rebuild.Tool.Options

/-!
# What programs read

A program reads the files that its operands name, or its input where an operand is a dash or none is given. It sees
bytes, each as the character with its number, in lines.
-/

namespace Rebuild.Tool

open Text

/-- The bytes of a line, each as the character with its number. -/
abbrev Line := List Char

/-- The bytes that an operand leads to. -/
def readOperand (operand : String) : ToolM (Except SystemFault ByteArray) :=
  ExceptT.lift (if operand == "-" then Process.takeAll 0 else Process.takeFile operand)

/-- Writes bytes to the file at a path, which is made anew. -/
def writeOperand (path : String) (bytes : ByteArray) : ToolM (Except SystemFault Unit) := do
  match (← getThe Process).openPath path .write 0o666 with
  | .error fault => pure (.error fault)
  | .ok (number, p) =>
    set p
    Process.writeFile number bytes

/-- Makes sure that there is a file at a path that can be written. -/
def openOperand (path : String) : ToolM (Except SystemFault Unit) := do
  match (← getThe Process).openPath path .append 0o666 with
  | .error fault => pure (.error fault)
  | .ok (_, p) =>
    set p
    pure (.ok ())

/-- Asks a question, and reads a line of the input: whether it begins with the letter for yes. -/
def confirm (question : String) : ToolM Bool := do
  ExceptT.lift (Process.sayError question)
  let p ← getThe Process
  match p.unread 0 with
  | .error _ => pure false
  | .ok bytes =>
    let line := bytes.toList.takeWhile (· != 10)
    let size := min bytes.size (line.length + 1)
    set (if size < bytes.size then p.skip 0 size else (p.skip 0 size).reachEndOf 0)
    pure (line.head? == some 121 || line.head? == some 89)

/-- The operands, or a dash if there are none. -/
def orInput (operands : List String) : List String :=
  if operands.isEmpty then ["-"] else operands

/-- The lines of bytes without their ends, and whether the last one is ended. -/
def linesOf (ending : Char) (bytes : ByteArray) : List Line × Bool :=
  let pieces := (charsOfBytes bytes).splitOnP (· == ending)
  match pieces.getLast? with
  | some [] => (pieces.dropLast, true)
  | _ => (pieces, false)

/-- The bytes of lines, each of which is ended. -/
def bytesOfLines (ending : Char) (lines : List Line) : ByteArray :=
  bytesOfChars (lines.flatMap (· ++ [ending]))

/-- The bytes of lines of which the last is ended or not. -/
def bytesOfText (ending : Char) (lines : List Line) (isEnded : Bool) : ByteArray :=
  if isEnded then bytesOfLines ending lines else bytesOfChars ([ending].intercalate lines)

/-- Does something with the bytes of each operand, and complains of those that cannot be read. -/
def forEachInput (name : String) (operands : List String) (complaint : String → SystemFault → String)
    (action : String → ByteArray → ToolM Nat) : ToolM Nat :=
  eachOf operands fun operand => do
    match ← readOperand operand with
    | .ok bytes => action operand bytes
    | .error fault =>
      complain name (complaint operand fault)
      pure 1

/-- The usual wording of what cannot be read. -/
def plainComplaint (operand : String) (fault : SystemFault) : String :=
  s!"{shellQuotedIfNeeded operand}: {fault.text}"

/-- The number that a whole text of digits spells. -/
def natural? (text : String) : Option Nat :=
  if !text.isEmpty && text.toList.all Char.isDigit then text.toNat? else none

/-- Whether a byte is a blank. -/
def isSpaceByte (c : Char) : Bool :=
  c == ' ' || (9 ≤ c.toNat && c.toNat ≤ 13)

/-- A text with blanks before it up to a width. -/
def padded (width : Nat) (text : String) : String :=
  String.ofList (List.replicate (width - text.length) ' ') ++ text

end Rebuild.Tool
