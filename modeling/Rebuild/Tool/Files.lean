import Rebuild.Tool.Amount
import Rebuild.Tool.Moment
import Rebuild.Tool.Node

/-!
# Files without their content

The programs that set times and sizes, and make files that are empty.
-/

namespace Rebuild.Tool

open Text

/-! ## Times -/

/-- The time that arguments ask for; none means now. -/
def timeGiven (name : String) (options : List Given) : ToolM (Option Time) := do
  let d ← disk
  let reference ← match argument? options "reference" with
    | none => pure none
    | some path =>
      match d.get path with
      | .ok node => pure (some node.modified)
      | .error fault => fail name s!"failed to get attributes of {shellQuoted path}: {fault.text}" 1
  match argument? options "date", argument? options "t" with
  | some text, _ =>
    match Moment.ofText? (reference.getD d.clock) text with
    | some time => pure (some time)
    | none => fail name s!"invalid date format {plainlyQuoted text}" 1
  | none, some text =>
    match Moment.ofStamp? d.clock text with
    | some time => pure (some time)
    | none => fail name s!"invalid date format {plainlyQuoted text}" 1
  | none, none => pure reference

/-- Gives a file a time, and makes it if it is not there. -/
def touchOne (name : String) (options : List Given) (time : Option Time) (path : String) : ToolM Nat := do
  let isMade := !(has options "no-create" || has options "no-dereference")
  let refuse (text : String) : ToolM Nat := do
    complain name text
    pure 1
  let opened ← if isMade then edit fun d => (d.openToWrite path 0o666).map Prod.snd else pure (.ok ())
  let setsTime := !(has options "a" && !has options "m" && !(argument? options "time").any (· == "modify"))
  let stamped ← edit fun d =>
    let d := d.tick
    if setsTime then d.stamp (!has options "no-dereference") path (time.getD d.clock)
    else (nodeOf d (!has options "no-dereference") path).map fun _ => d
  match opened, stamped with
  | _, .ok () => pure 0
  | .error .isDirectory, .error fault | .ok (), .error fault =>
    if !isMade && fault == .noEntry then pure 0 else refuse s!"setting times of {shellQuoted path}: {fault.text}"
  | .error fault, _ => refuse s!"cannot touch {shellQuoted path}: {fault.text}"

/-- Gives files the present time, or another. -/
def touch : Tool := fun name args => do
  let rules : List OptionRule :=
    [⟨"a", "", .none⟩, ⟨"c", "no-create", .none⟩, ⟨"d", "date", .required⟩, ⟨"f", "", .none⟩,
     ⟨"h", "no-dereference", .none⟩, ⟨"m", "", .none⟩, ⟨"r", "reference", .required⟩, ⟨"t", "", .required⟩,
     ⟨"", "time", .required⟩]
  let (options, operands) ← readOptions name rules false 1 args
  let time ← timeGiven name options
  if operands.isEmpty then failWithHelp name "missing file operand" 1
  else eachOf operands (touchOne name options time)

/-! ## Files without content -/

/-- Makes a file or a directory with a name that nothing has yet. -/
def mktemp : Tool := fun name args => do
  let rules : List OptionRule :=
    [⟨"d", "directory", .none⟩, ⟨"q", "quiet", .none⟩, ⟨"u", "dry-run", .none⟩, ⟨"", "suffix", .required⟩,
     ⟨"p", "", .required⟩, ⟨"", "tmpdir", .optional⟩, ⟨"t", "", .none⟩]
  let (options, operands) ← readOptions name rules false 1 args
  let p ← getThe Process
  let template := operands.headD "tmp.XXXXXXXXXX"
  let usual := (p.environment.lookup "TMPDIR").getD "/tmp"
  let directory := if operands.isEmpty || has options "t" || has options "tmpdir" || has options "p" then
      some ((argument? options "p").getD ((argument? options "tmpdir").getD usual))
    else none
  let marks := (template.toList.reverse.takeWhile (· == 'X')).length
  if marks < 3 then fail name s!"too few X's in template {plainlyQuoted template}" 1
  let digits := String.ofList (Nat.toDigits 10 p.disk.next)
  let shown := String.ofList (List.replicate (marks - digits.length) 'a') ++ digits
  let base := String.ofList (template.toList.take (template.length - marks)) ++ shown ++
    (argument? options "suffix").getD ""
  let path := match directory with
    | some directory => inDirectory directory base
    | none => base
  let isDirectory := has options "directory"
  let made ← if has options "dry-run" then pure (.ok ())
    else edit fun d => if isDirectory then d.makeDirectory path 0o700
      else (d.openToWrite path 0o600).map Prod.snd
  match made with
  | .ok () => do
    say name (path ++ "\n")
    pure 0
  | .error fault =>
    let kind := if isDirectory then "directory" else "file"
    let whole := (directory.map (inDirectory · template)).getD template
    fail name s!"failed to create {kind} via template {plainlyQuoted whole}: {fault.text}" 1

/-! ## Sizes -/

/-- How a size is reckoned from the size that a file has. -/
inductive Resizing where
  | exactly
  /-- It is more or less by so many bytes. -/
  | byBytes
  | atMost
  | atLeast
  | roundedDown
  | roundedUp
deriving DecidableEq, Repr

/-- The size that a number makes of another; it is never below nothing. -/
def Resizing.apply (r : Resizing) (size : Nat) (n : Int) : Nat :=
  match r with
  | .exactly => n.toNat
  | .byBytes => (size + n).toNat
  | .atMost => min size n.toNat
  | .atLeast => max size n.toNat
  | .roundedDown => size / n.toNat * n.toNat
  | .roundedUp => (size + n.toNat - 1) / n.toNat * n.toNat

/-- The size that an argument asks for. -/
def readSize (name text : String) : ToolM (Resizing × Int) := do
  let cs := text.toList.dropWhile isSpaceByte
  let marked : Resizing × List Char := match cs with
    | '<' :: rest => (.atMost, rest)
    | '>' :: rest => (.atLeast, rest)
    | '/' :: rest => (.roundedDown, rest)
    | '%' :: rest => (.roundedUp, rest)
    | cs => (.exactly, cs)
  let rest := marked.2.dropWhile isSpaceByte
  let isSigned := rest.head? == some '+' || rest.head? == some '-'
  if isSigned && marked.1 != .exactly then failWithHelp name "multiple relative modifiers specified" 1
  let n ← readAmount name "Invalid number" 1 "EgGkKmMPQRtTYZ0" (-9223372036854775808) greatestInteger
      (String.ofList rest)
  if n == 0 && (marked.1 == .roundedDown || marked.1 == .roundedUp) then fail name "division by zero" 1
  pure (if isSigned then .byBytes else marked.1, n)

/-- Gives a file a size. -/
def resize (name : String) (isMade : Bool) (reference? : Option Nat) (size? : Option (Resizing × Int)) (path : String) :
    ToolM Nat := do
  let opened ← if isMade || (← disk).isThere path then edit fun d => (d.openToWrite path 0o666).map Prod.snd
    else pure ((← disk).get path |>.map fun _ => ())
  match opened with
  | .error fault =>
    if !isMade && fault == .noEntry then pure 0
    else
      complain name s!"cannot open {shellQuoted path} for writing: {fault.text}"
      pure 1
  | .ok () =>
    let before := (((← disk).read path).toOption.getD .empty)
    let size := match size? with
      | some (resizing, n) => resizing.apply (reference?.getD before.size) n
      | none => reference?.getD 0
    let zeros : ByteArray := ⟨Array.replicate (size - before.size) 0⟩
    match ← edit (Disk.write · path (before.extract 0 size ++ zeros)) with
    | .ok () => pure 0
    | .error fault =>
      complain name s!"failed to truncate {shellQuoted path} at {size} bytes: {fault.text}"
      pure 1

/-- Gives files a size. -/
def truncate : Tool := fun name args => do
  let rules : List OptionRule :=
    [⟨"c", "no-create", .none⟩, ⟨"o", "io-blocks", .none⟩, ⟨"r", "reference", .required⟩, ⟨"s", "size", .required⟩]
  let (size?, operands, options) ← do
    let ((size?, options), operands) ← foldOptions name rules false 1 args
      ((none, []) : Option (Resizing × Int) × List Given) fun (size?, options) given => do
        match given with
        | ("size", some text) => pure (some (← readSize name text), given :: options)
        | _ => pure (size?, given :: options)
    pure (size?, operands, options.reverse)
  let reference? := argument? options "reference"
  match reference?, size? with
  | none, none => failWithHelp name "you must specify either '--size' or '--reference'" 1
  | some _, some (.exactly, _) => failWithHelp name "you must specify a relative '--size' with '--reference'" 1
  | _, _ => pure ()
  if has options "io-blocks" && size?.isNone then
    failWithHelp name "'--io-blocks' was specified but '--size' was not" 1
  if operands.isEmpty then failWithHelp name "missing file operand" 1
  let reference? ← match reference? with
    | none => pure none
    | some path =>
      match (← disk).get path with
      | .ok node => pure (some (sizeOf node))
      | .error fault => fail name s!"cannot stat {shellQuoted path}: {fault.text}" 1
  let size? := size?.map fun (resizing, n) => (resizing, if has options "io-blocks" then n * 4096 else n)
  eachOf operands (resize name (!has options "no-create") reference? size?)

/-! ## Writing -/

/-- Waits until all is written, which it always is. -/
def sync : Tool := fun name args => do
  let (_, operands) ← readOptions name [⟨"d", "data", .none⟩, ⟨"f", "file-system", .none⟩] false 1 args
  let d ← disk
  eachOf operands fun path => do
    match d.get path with
    | .ok _ => pure 0
    | .error fault => do
      complain name s!"error opening {shellQuoted path}: {fault.text}"
      pure 1

end Rebuild.Tool
