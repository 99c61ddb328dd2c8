import Rebuild.Tool.Input
import Rebuild.Tool.Moment.Format

/-!
# Telling the time

`date` prints a moment by a format: that of the disk, that of a file, or one that is given in words.
-/

namespace Rebuild.Tool

open Text

/-- The formats of the standard for dates, from the coarsest to the finest. -/
def standardFormats : List (String × String) :=
  [("hours", "%Y-%m-%dT%H%:z"), ("minutes", "%Y-%m-%dT%H:%M%:z"), ("date", "%Y-%m-%d"),
   ("seconds", "%Y-%m-%dT%H:%M:%S%:z"), ("ns", "%Y-%m-%dT%H:%M:%S,%N%:z")]

/-- The formats of the standard for messages. -/
def messageFormats : List (String × String) :=
  [("date", "%Y-%m-%d"), ("seconds", "%Y-%m-%d %H:%M:%S%:z"), ("ns", "%Y-%m-%d %H:%M:%S.%N%:z")]

/-- The format with a name that begins with a text. -/
def formatNamed (name option : String) (formats : List (String × String)) (text : String) : ToolM String := do
  match formats.find? fun format => format.1.startsWith text with
  | some (_, format) => pure format
  | none =>
    complain name s!"invalid argument {plainlyQuoted text} for {plainlyQuoted option}"
    let choices := formats.map fun format => s!"  - {plainlyQuoted format.1}\n"
    ExceptT.lift (Process.sayError ("Valid arguments are:\n" ++ String.join choices))
    ExceptT.lift (Process.sayError s!"Try '{name} --help' for more information.\n")
    quit 1

/-- Prints a moment. -/
def date : Tool := fun name args => do
  let rules : List OptionRule :=
    [⟨"d", "date", .required⟩, ⟨"", "debug", .none⟩, ⟨"f", "file", .required⟩, ⟨"I", "iso-8601", .optional⟩,
     ⟨"r", "reference", .required⟩, ⟨"R", "rfc-email", .none⟩, ⟨"", "rfc-3339", .required⟩, ⟨"s", "set", .required⟩,
     ⟨"u", "utc", .none⟩, ⟨"", "universal", .none⟩]
  let (options, operands) ← readOptions name rules false 1 args
  let sources := options.filter fun given => ["date", "file", "reference"].contains given.1
  if 1 < sources.eraseDups.length && (sources.map Prod.fst).eraseDups.length != 1 then
    failWithHelp name "the options to specify dates for printing are mutually exclusive" 1
  let format ← match options.find? fun given => ["iso-8601", "rfc-email", "rfc-3339"].contains given.1 with
    | some ("iso-8601", text) => formatNamed name "--iso-8601" standardFormats (text.getD "date")
    | some ("rfc-email", _) => pure "%a, %d %b %Y %H:%M:%S %z"
    | some (_, text) => formatNamed name "--rfc-3339" messageFormats (text.getD "")
    | none => pure "%a %b %e %H:%M:%S %Z %Y"
  let format ← match operands with
    | [] => pure format
    | [word] =>
      if word.startsWith "+" then pure (word.drop 1).toString else fail name s!"invalid date {plainlyQuoted word}" 1
    | _ :: extra :: _ => failWithHelp name s!"extra operand {plainlyQuoted extra}" 1
  let d ← disk
  match argument? options "date", argument? options "reference", argument? options "file" with
  | some text, _, _ =>
    match Moment.ofText? d.clock text with
    | some time => say name (Moment.format time format ++ "\n")
    | none => fail name s!"invalid date {plainlyQuoted text}" 1
  | none, some path, _ =>
    match d.get path with
    | .ok node => say name (Moment.format node.modified format ++ "\n")
    | .error fault => fail name (plainComplaint path fault) 1
  | none, none, some path =>
    match ← readOperand path with
    | .error fault => fail name (plainComplaint path fault) 1
    | .ok bytes =>
      for line in (linesOf '\n' bytes).1 do
        match Moment.ofText? d.clock (ofByteChars line) with
        | some time => say name (Moment.format time format ++ "\n")
        | none => complain name s!"invalid date {plainlyQuoted (ofByteChars line)}"
  | none, none, none => say name (Moment.format d.clock format ++ "\n")
  pure 0

end Rebuild.Tool
