import Rebuild.Tool.Editing.Reader
import Rebuild.Tool.Editing.Run
import Rebuild.Tool.Paths

/-!
# Editing files by scripts

`sed` edits the lines of files by a script and prints them, or writes them back into the files.
-/

namespace Rebuild.Tool

open Text Editing

/-- The options of `sed`. -/
def sedRules : List OptionRule :=
  [⟨"n", "quiet", .none⟩, ⟨"", "silent", .none⟩, ⟨"", "debug", .none⟩, ⟨"e", "expression", .required⟩,
   ⟨"f", "file", .required⟩, ⟨"", "follow-symlinks", .none⟩, ⟨"i", "in-place", .optional⟩,
   ⟨"l", "line-length", .required⟩, ⟨"", "posix", .none⟩, ⟨"E", "regexp-extended", .none⟩, ⟨"r", "", .none⟩,
   ⟨"s", "separate", .none⟩, ⟨"", "sandbox", .none⟩, ⟨"u", "unbuffered", .none⟩, ⟨"z", "null-data", .none⟩,
   ⟨"", "zero-terminated", .none⟩, ⟨"b", "binary", .none⟩]

/-- Says how `sed` is used and ends. -/
def sedUsage (name : String) : ToolM α := do
  ExceptT.lift (Process.sayError
    (s!"Usage: {name} [OPTION]... " ++ "\x7bscript-only-if-no-other-script\x7d [input-file]...\n"))
  quit 1

/-- The part of a script that is in a file. -/
def partInFile (name path : String) (isExtended : Bool) : ToolM Part := do
  match ← readOperand path with
  | .error fault => fail name s!"couldn't open file {path}: {fault.text}" 4
  | .ok bytes =>
    let chars := charsOfBytes bytes
    let chars := if chars.getLast? == some '\n' then chars.dropLast else chars
    pure ⟨.file path, isExtended, chars⟩

/-- The parts of the script that options give. Expressions are extended after the option that says so. -/
def scriptParts (name : String) (number : Nat) (isExtended : Bool) : List Given → ToolM (List Part)
  | [] => pure []
  | (option, argument) :: rest => do
    let argument := argument.getD ""
    match option with
    | "expression" =>
      pure (⟨.argument number, isExtended, byteChars argument⟩ :: (← scriptParts name (number + 1) isExtended rest))
    | "file" => do
      let part ← partInFile name argument isExtended
      pure (part :: (← scriptParts name number isExtended rest))
    | option => scriptParts name number (isExtended || option == "regexp-extended" || option == "r") rest

/-- Opens the files that a script writes; the numbers of the open files are told. -/
def openTargets (name : String) (paths : List String) : ToolM (List (String × Nat)) :=
  (paths.eraseDups.filter (· != "/dev/stdout")).mapM fun path => do
    match (← getThe Process).openPath path .write 0o666 with
    | .ok (number, p) =>
      set p
      pure (path, number)
    | .error fault => fail name s!"couldn't open file {path}: {fault.text}" 4

/-- The script that options give, or the first operand, with the files that it writes, and the operands that are
left. -/
def scriptGiven (name : String) (options : List Given) (operands : List String) :
    ToolM (Script × List (String × Nat) × List String) := do
  let isExtended := has options "regexp-extended" || has options "r"
  let (parts, operands) ← match has options "expression" || has options "file", operands with
    | true, operands => do pure (← scriptParts name 1 false options, operands)
    | false, text :: operands => pure ([⟨Source.argument 1, isExtended, byteChars text⟩], operands)
    | false, [] => sedUsage name
  match Script.ofParts parts with
  | .error misreading => do
    let _ ← openTargets name misreading.targets
    fail name misreading.text (if misreading.isPlaceless then 4 else 1)
  | .ok script => do
    let targets ← openTargets name script.targets
    match script.missingLabel? with
    | some label =>
      fail name ("can't find label for jump to " ++ (Char.ofNat 96).toString ++ ofByteChars label ++ "'") 4
    | none => pure (script, targets, operands)

/-- The lines of bytes of a file. -/
def inputLines (ending : Char) (file : Nat) (bytes : ByteArray) : List InputLine :=
  let (lines, isEnded) := linesOf ending bytes
  let count := lines.length
  lines.zipIdx.map fun (chars, i) => ⟨chars, isEnded || i + 1 < count, file, .line⟩

/-- Puts new bytes in the place of a file, which is kept under another name if a suffix is given. -/
def replaceFile (path suffix : String) (bytes : ByteArray) (d : Disk) : Except SystemFault Disk := do
  let node ← d.get path
  let kept := if suffix.toList.contains '*' then
      String.join (suffix.toList.map fun c => if c == '*' then lastName path else c.toString)
    else lastName path ++ suffix
  let above := String.ofList ((path.toList.reverse.dropWhile (· != '/')).reverse)
  let d ← if suffix.isEmpty then d.unlink path
    else d.rename false path (if kept.toList.contains '/' then kept else above ++ kept)
  let d ← d.write path bytes
  d.permit path node.mode

/-- Reads the files to be edited; their lines are told, and what is wrong with those that cannot be read. -/
def readInputs (isInPlace : Bool) (ending : Char) (operands : List String) :
    ToolM (List (List InputLine × Option SystemFault)) :=
  operands.zipIdx.mapM fun (operand, i) => do
    match ← readOperand (if isInPlace && operand == "-" then "./-" else operand) with
    | .ok bytes => pure (inputLines ending i bytes, none)
    | .error .isDirectory => pure ([⟨[], true, i, .unreadable⟩], some .isDirectory)
    | .error fault => pure ([⟨[], true, i, .missing⟩], some fault)

/-- Edits the lines of files by a script. -/
def sed : Tool := fun name args => do
  let (options, operands) ← match optionsOf (sedRules ++ helpRules) false args with
    | .ok found => pure found
    | .error fault => do
      complain name fault.text
      sedUsage name
  if has options "help" || has options "version" then quit 0
  let (script, targets, operands) ← scriptGiven name options operands
  let isInPlace := has options "in-place"
  if isInPlace && operands.isEmpty then fail name "no input files" 4
  let names := orInput operands
  let ending := if has options "null-data" || has options "zero-terminated" then '\x00' else '\n'
  let inputs ← readInputs isInPlace ending names
  let p ← getThe Process
  let content? (path : String) : Option Line :=
    let bytes := if path == "/dev/stdin" then p.unread 0 else p.disk.read path
    bytes.toOption.map charsOfBytes
  let style : EditStyle :=
    { script
      isQuiet := has options "quiet" || has options "silent" || script.isQuiet
      isInPlace
      isSeparate := isInPlace || has options "separate"
      ending
      width := ((argument? options "line-length").bind natural?).getD 70
      names := names.toArray
      content? }
  let edited := editLines style (inputs.flatMap Prod.fst)
  if edited.hasRest then haveEnough
  for file in edited.missed do
    let fault := ((inputs[file]?).bind Prod.snd).getD .noEntry
    complain name ("can't read " ++ names[file]?.getD "-" ++ s!": {fault.text}")
  for (path, cs) in edited.outlets do
    match targets.lookup path with
    | some number =>
      match ← Process.writeFile number (bytesOfChars cs) with
      | .ok () => pure ()
      | .error fault =>
        endBySignal fault
        fail name s!"couldn't write to {path}: {fault.text}" 4
    | none => pure ()
  let outputs := edited.outputs.reverse
  if isInPlace then
    for (path, i) in (names.zipIdx.take edited.reached).filter fun (_, i) => !edited.missed.contains i do
      let cs := (outputs.lookup i).getD []
      match ← Tool.edit (replaceFile path ((argument? options "in-place").getD "") (bytesOfChars cs)) with
      | .ok () => pure ()
      | .error fault => fail name s!"cannot rename {path}: {fault.text}" 4
  else
    put name (bytesOfChars ((outputs.mergeSort fun a b => a.1 ≤ b.1).flatMap Prod.snd))
  match edited.ending with
  | .unreadable file =>
    let path := names[file]?.getD "-"
    if isInPlace then fail name s!"couldn't edit {path}: not a regular file" 4
    else fail name s!"read error on {path}: {SystemFault.isDirectory.text}" 4
  | .noPattern => fail name "-e expression #1, char 0: no previous regular expression" 1
  | .exit 0 => pure (if edited.missed.isEmpty then 0 else 2)
  | .exit code => pure code

end Rebuild.Tool
