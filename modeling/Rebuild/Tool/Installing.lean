import Rebuild.Tool.Copying
import Rebuild.Tool.Directories

/-!
# Installing

`install` copies files with permissions of their own, or makes directories with them.
-/

namespace Rebuild.Tool

open Text

/-- The options of installing. -/
def installRules : List OptionRule :=
  backupRules ++
  [⟨"C", "compare", .none⟩, ⟨"c", "", .none⟩, ⟨"d", "directory", .none⟩, ⟨"D", "", .none⟩, ⟨"g", "group", .required⟩,
   ⟨"m", "mode", .required⟩, ⟨"o", "owner", .required⟩, ⟨"p", "preserve-timestamps", .none⟩, ⟨"s", "strip", .none⟩,
   ⟨"", "strip-program", .required⟩, ⟨"", "preserve-context", .none⟩, ⟨"t", "target-directory", .required⟩,
   ⟨"T", "no-target-directory", .none⟩, ⟨"v", "verbose", .none⟩, ⟨"Z", "context", .optional⟩]

/-- The sources among the operands, and where they go. The directory that is given may be made later. -/
def installDestination (name : String) (directory? : Option String) (makesPath isPlain : Bool)
    (operands : List String) : ToolM (List String × Destination) := do
  match directory?, operands with
  | some directory, operands =>
    if operands.isEmpty then failWithHelp name "missing file operand" 1
    if isPlain then fail name "cannot combine --target-directory (-t) and --no-target-directory (-T)" 1
    match (← disk).get (inDirectory directory "") with
    | .ok _ => pure ()
    | .error fault =>
      if !(makesPath && fault == .noEntry) then fail name s!"failed to access {shellQuoted directory}: {fault.text}" 1
    pure (operands, .within directory)
  | none, operands => destination name none isPlain operands

/-- Whether a copy would not differ from what is there. -/
def isCurrent (d : Disk) (mode : Nat) (source target : String) : Bool :=
  match d.get source, d.getName target with
  | .ok ⟨.file bytes, _, _⟩, .ok ⟨.file other, held, _⟩ => mode ≤ 0o777 && held == mode && bytes == other
  | _, _ => false

/-- Makes sure that an owner or a group is known. -/
def checkOwner (name kind : String) (owner? : Option String) : ToolM Unit := do
  match owner? with
  | none => pure ()
  | some text =>
    if text != "root" && (natural? text).isNone then fail name s!"invalid {kind} {plainlyQuoted text}" 1

/-- Copies files with permissions of their own, or makes directories. -/
def install : Tool := fun name args => do
  let (options, operands) ← readOptions name installRules false 1 args
  let directory? ← targetDirectory? name options
  let makesDirectories := has options "directory"
  if makesDirectories && has options "strip" then
    fail name "the strip option may not be used when installing a directory" 1
  if makesDirectories && directory?.isSome then
    fail name "target directory not allowed when installing a directory" 1
  let backup? ← BackupStyle.ofOptions? name options
  let (sources, destination) ←
    if makesDirectories then
      if operands.isEmpty then failWithHelp name "missing file operand" 1 else pure (operands, .to "")
    else installDestination name directory? (has options "D") (has options "no-target-directory") operands
  let mode ← match argument? options "mode" with
    | none => pure 0o755
    | some text =>
      match PermissionChange.ofText? text with
      | some change => pure (change.apply makesDirectories 0 0)
      | none => fail name s!"invalid mode {plainlyQuoted text}" 1
  if has options "strip-program" && !has options "strip" then
    complain name "WARNING: ignoring --strip-program option as -s option was not specified"
  if has options "compare" then
    if has options "preserve-timestamps" then
      failWithHelp name "options --compare (-C) and --preserve-timestamps are mutually exclusive" 1
    if has options "strip" then failWithHelp name "options --compare (-C) and --strip are mutually exclusive" 1
    if 0o777 < mode then
      complain name "the --compare (-C) option is ignored when you specify a mode with non-permission bits"
  checkOwner name "user" (argument? options "owner")
  checkOwner name "group" (argument? options "group")
  let isVerbose := has options "verbose"
  let making : DirectoryStyle :=
    { name, aboveMode := 0o755, mode? := some mode, keepsExisting := false,
      announcement? := if isVerbose then some "creating directory" else none }
  let copying : CopyStyle :=
    { name, follows := .always, removesFirst := true, mode? := some mode, backup?, isVerbose,
      keepsTimes := has options "preserve-timestamps" }
  let mask := (← disk).mask
  modify fun p => { p with disk := { p.disk with mask := 0 } }
  let code ← if makesDirectories then eachOf sources fun path => do pure (if ← making.makePath path then 0 else 1)
    else
      let isReady ← match destination, has options "D" with
        | _, false => pure true
        | .to target, true => making.makeLeading target
        | .within directory, true =>
          if (← disk).isDirectory directory then pure true
          else do making.makeLeading (joinedPath directory (lastName (sources.headD "")))
      if !isReady then pure 1
      else forEachSource sources destination fun source target => do
        if has options "compare" && isCurrent (← disk) mode source target then pure true
        else copying.copyOperand source target
  modify fun p => { p with disk := { p.disk with mask } }
  pure code

end Rebuild.Tool
