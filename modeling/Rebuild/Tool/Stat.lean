import Rebuild.Text.Escape
import Rebuild.Text.Format
import Rebuild.Tool.Moment.Format
import Rebuild.Tool.Node

/-!
# What names stand for

`stat` tells by a format what names stand for. A directive has flags, a width and a precision, and a letter that says
which part is told; times in seconds may have a fraction, which the precision makes as long.
-/

namespace Rebuild.Tool

open Text

/-! ## Parts -/

/-- A part of what is told of a node. -/
inductive NodePart where
  | text (s : String)
  | natural (n : Nat)
  | octal (n : Nat)
  | hexadecimal (n : Nat)
  | seconds (time : Time)
  /-- What is not known of any node. -/
  | missing
deriving DecidableEq, Repr

/-- The number of the disk, as one and in two parts. -/
def diskNumbers : Nat × Nat × Nat :=
  (65024, 254, 0)

/-- The two numbers of a device. -/
def deviceNumbers (n : DiskNode) : Nat × Nat :=
  match n.item with
  | .device .null => (1, 3)
  | .device .full => (1, 7)
  | .device (.endless isNoise) => (1, if isNoise then 9 else 5)
  | _ => (0, 0)

/-- The number of the kind of a node. -/
def kindNumber (n : DiskNode) : Nat :=
  match n.item with
  | .file _ | .program _ => 0o100000
  | .directory => 0o040000
  | .link _ => 0o120000
  | .device _ => 0o020000

/-- The part of a node that a letter stands for. A letter before it says which half of a number is meant. -/
def nodePart? (d : Disk) (path : String) (place : Place) (n : DiskNode) (half : Option Char) (letter : Char) :
    Option NodePart :=
  let full : NodePart := .text (Moment.format n.modified "%Y-%m-%d %H:%M:%S.%N %z")
  let (major, minor) := deviceNumbers n
  match letter, half with
  | 'n', _ => some (.text path)
  | 's', _ => some (.natural (sizeOf n))
  | 'a', _ => some (.octal n.mode)
  | 'A', _ => some (.text (modeText n))
  | 'b', _ => some (.natural (2 * blocksOf n))
  | 'B', _ => some (.natural 512)
  | 'C', _ => some .missing
  | 'd', none => some (.natural diskNumbers.1)
  | 'd', some 'H' => some (.natural diskNumbers.2.1)
  | 'd', some _ => some (.natural diskNumbers.2.2)
  | 'D', _ => some (.hexadecimal diskNumbers.1)
  | 'f', _ => some (.hexadecimal (kindNumber n + n.mode))
  | 'F', _ => some (.text (kindName n))
  | 'g', _ | 'u', _ => some (.natural 0)
  | 'G', _ | 'U', _ => some (.text "root")
  | 'h', _ => some (.natural (linkCount d place n))
  | 'i', _ => some (.natural ((d.number? place).getD 0))
  | 'm', _ => some (.text "/")
  | 'o', _ => some (.natural 4096)
  | 'r', none => some (.natural (256 * major + minor))
  | 'r', some 'H' | 't', _ => some (if letter == 't' then .hexadecimal major else .natural major)
  | 'r', some _ => some (.natural minor)
  | 'R', _ => some (.hexadecimal (256 * major + minor))
  | 'T', _ => some (.hexadecimal minor)
  | 'x', _ | 'y', _ | 'z', _ => some full
  | 'X', _ | 'Y', _ | 'Z', _ => some (.seconds n.modified)
  | 'w', _ => some (.text "-")
  | 'W', _ => some (.natural 0)
  | _, _ => none

/-! ## Directives -/

/-- What stands between a percent sign and a letter. -/
structure StatDirective where
  flags : List Char
  width : Nat
  /-- The digits after a point, if there is one. -/
  precision? : Option (List Char)
deriving DecidableEq, Repr

/-- The directive with which a text begins, and how many characters it has. -/
def StatDirective.front (cs : List Char) : StatDirective × Nat :=
  let flags := cs.takeWhile "'-+ #0I".toList.contains
  let rest := cs.drop flags.length
  let width := rest.takeWhile Char.isDigit
  let rest := rest.drop width.length
  let precision? := if rest.head? == some '.' then some ((rest.drop 1).takeWhile Char.isDigit) else none
  let size := flags.length + width.length + ((precision?.map fun digits => digits.length + 1).getD 0)
  (⟨flags, Moment.digitsValue width, precision?⟩, size)

namespace StatDirective

/-- The directive with the flags that count for a kind of part. -/
def directive (s : StatDirective) (counting : String) (conversion : Char) : Directive :=
  ⟨s.flags.filter counting.toList.contains, s.width, s.precision?.map Moment.digitsValue, conversion⟩

/-- A time in seconds, with a fraction as long as the precision says, or of nine digits. -/
def secondsText (s : StatDirective) (time : Time) : String :=
  let seconds : Nat := time / Moment.nano
  match s.precision? with
  | none => (s.directive "-+0" 'd').integer seconds
  | some digits =>
    let places := if digits.isEmpty then 9 else Moment.digitsValue digits
    if places == 0 then ({ s with precision? := none }.directive "-+0" 'd').integer seconds
    else
      let isLeft := s.flags.contains '-'
      let front :=
        ({ s with precision? := none, width := if isLeft then 0 else s.width - 1 - places }.directive "-+0" 'd')
        |>.integer seconds
      let fraction := (Moment.filled '0' 9 (time % Moment.nano : Nat)).toList.take places
      let body := front ++ "." ++ String.ofList (fraction ++ List.replicate (places - 9) '0')
      if isLeft then body ++ String.ofList (List.replicate (s.width - body.length) ' ') else body

/-- A part as a directive says; nothing if it is not known. -/
def text? (s : StatDirective) : NodePart → Option String
  | .text t => some ((s.directive "-" 's').text t)
  | .natural n => some ((s.directive "-0" 'u').natural n)
  | .octal n => some ((s.directive "-#0" 'o').natural n)
  | .hexadecimal n => some ((s.directive "-#0" 'x').natural n)
  | .seconds time => some (s.secondsText time)
  | .missing => none

end StatDirective

/-! ## Formats -/

/-- The escape that the characters after a backslash make in a format. -/
def statEscape (cs : List Char) : Escape :=
  match cs with
  | '"' :: rest => .byte 34 rest
  | 'x' :: _ => Escape.inEcho cs
  | cs => Escape.inFormat cs

/-- What was told so far, and what was complained of, the last first. -/
structure Telling where
  bytes : ByteArray
  complaints : List String
  isGood : Bool
  /-- What is wrong with the format, if that ends it. -/
  fault? : Option String

/-- Tells bytes. -/
def Telling.add (t : Telling) (bytes : ByteArray) : Telling :=
  { t with bytes := t.bytes ++ bytes }

/-- Complains. -/
def Telling.warn (t : Telling) (text : String) : Telling :=
  { t with complaints := text :: t.complaints }

/-- How files are told: by which parts, how the name is quoted, and whether backslashes begin escapes. -/
structure StatFormat where
  part? : Option Char → Char → Option NodePart
  /-- The name and, if it is a link, what that holds. -/
  name : String
  path : String
  escapes : Bool

/-- Tells what a format asks for. -/
def StatFormat.tell (f : StatFormat) (limit : Nat) (t : Telling) (cs : List Char) : Telling :=
  match limit, cs with
  | 0, _ | _, [] => t
  | limit + 1, '%' :: rest =>
    let (s, size) := StatDirective.front rest
    let part (half : Option Char) (letter : Char) (after : List Char) : Telling :=
      if letter == 'N' then f.tell limit (t.add (toBytes ((s.directive "-" 's').text f.name))) after
      else
        match f.part? half letter with
        | none => f.tell limit (t.add "?".toUTF8) after
        | some p =>
          match s.text? p with
          | some text => f.tell limit (t.add (toBytes text)) after
          | none =>
            let t := t.warn s!"failed to get security context of {shellQuoted f.path}: No data available"
            f.tell limit ({ t with isGood := false }.add (toBytes ((s.directive "-" 's').text "?"))) after
    match rest.drop size with
    | [] => if size == 0 then t.add "%".toUTF8 else invalid t (rest.take size)
    | '%' :: after => if size == 0 then f.tell limit (t.add "%".toUTF8) after else invalid t (rest.take size ++ ['%'])
    | 'H' :: 'd' :: after => part (some 'H') 'd' after
    | 'H' :: 'r' :: after => part (some 'H') 'r' after
    | 'L' :: 'd' :: after => part (some 'L') 'd' after
    | 'L' :: 'r' :: after => part (some 'L') 'r' after
    | letter :: after => part none letter after
  | limit + 1, '\\' :: rest =>
    if f.escapes then
      match statEscape rest, rest with
      | .byte n after, _ => f.tell limit (t.add ⟨#[UInt8.ofNat n]⟩) after
      | _, c :: after => f.tell limit ((t.warn s!"warning: unrecognized escape '\\{c}'").add (toBytes c.toString)) after
      | _, [] => (t.warn "warning: backslash at end of format").add "\\".toUTF8
    else f.tell limit (t.add "\\".toUTF8) rest
  | limit + 1, c :: rest => f.tell limit (t.add (toBytes c.toString)) rest
where
  /-- Stops at a directive that is none. -/
  invalid (t : Telling) (directive : List Char) : Telling :=
    { t with fault? := some (plainlyQuoted (String.ofList ('%' :: directive)) ++ ": invalid directive") }

/-- The format that is used if none is given; devices have a number of their own. -/
def longFormat (isDevice : Bool) : String :=
  "  File: %N\n  Size: %-10s\tBlocks: %-10b IO Block: %-6o %F\nDevice: %Hd,%Ld\tInode: %-10i  Links: " ++
    (if isDevice then "%-5h Device type: %Hr,%Lr\n" else "%h\n") ++
    "Access: (%04a/%10.10A)  Uid: (%5u/%8U)   Gid: (%5g/%8G)\nAccess: %x\nModify: %y\nChange: %z\n Birth: %w\n"

/-- The format of a short answer. -/
def terseFormat : String :=
  "%n %s %b %f %u %g %D %i %h %t %T %X %Y %Z %W %o\n"

/-- Tells by a format what names stand for. -/
def stat : Tool := fun name args => do
  let rules : List OptionRule :=
    [⟨"L", "dereference", .none⟩, ⟨"f", "file-system", .none⟩, ⟨"c", "format", .required⟩, ⟨"", "printf", .required⟩,
     ⟨"t", "terse", .none⟩, ⟨"", "cached", .required⟩]
  let (options, operands) ← readOptions name rules false 1 args
  if operands.isEmpty then failWithHelp name "missing operand" 1
  let given? := (options.reverse.find? fun given => given.1 == "printf" || given.1 == "format").map
    fun (option, text) => if option == "printf" then (text.getD "", true) else (text.getD "" ++ "\n", false)
  let d ← disk
  eachOf operands fun path => do
    match d.locate (has options "dereference") path with
    | .ok place =>
      match d.at? place with
      | some n => do
        let isDevice := n.item matches .device _
        let (format, escapes) := given?.getD (if has options "terse" then terseFormat else longFormat isDevice, false)
        let quoted (text : String) : String := if given?.isSome then shellQuoted text else text
        let shown := match n.item with
          | .link target => s!"{quoted path} -> {quoted target}"
          | _ => quoted path
        let f : StatFormat := ⟨nodePart? d path place n, shown, path, escapes⟩
        let t := f.tell (format.length + 1) ⟨.empty, [], true, none⟩ format.toList
        for complaint in t.complaints.reverse do complain name complaint
        put name t.bytes
        match t.fault? with
        | some text => fail name text 1
        | none => pure (if t.isGood then 0 else 1)
      | none => do
        complain name s!"cannot statx {shellQuoted path}: {SystemFault.text .noEntry}"
        pure 1
    | .error fault => do
      complain name s!"cannot statx {shellQuoted path}: {fault.text}"
      pure 1

end Rebuild.Tool
