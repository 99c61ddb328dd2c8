import Rebuild.Tool.Input
import Rebuild.Tool.Node
import Rebuild.Tool.Permissions

/-!
# Changing permissions

`chmod` changes the permissions of files, and of what is below directories if that is asked for. A change may be an
argument that begins with a dash; then it is told if the mask keeps it from what it asks for.
-/

namespace Rebuild.Tool

open Text

/-- What is told of changes. -/
inductive ChangeTelling where
  | nothing
  | changes
  | all
deriving DecidableEq, Repr

/-- How permissions are changed. -/
structure Permitting where
  name : String
  change : PermissionChange
  isQuiet : Bool := false
  isRecursive : Bool := false
  telling : ChangeTelling := .nothing
  /-- Whether it is told what the mask kept. -/
  tellsSurprises : Bool := false
  keepsRoot : Bool := false

namespace Permitting

/-- Complains, if that is wanted. -/
def refuse (s : Permitting) (path text : String) : ToolM Nat := do
  if !s.isQuiet then complain s.name text
  if s.telling == .all then say s.name s!"{shellQuoted path} could not be accessed\n"
  pure 1

/-- Permissions as octal digits and as letters. -/
def shown (n : DiskNode) (mode : Nat) : String :=
  let digits := String.ofList (Nat.toDigits 8 mode)
  "".pushn '0' (4 - digits.length) ++ digits ++ " (" ++ (modeText { n with mode }).drop 1 ++ ")"

/-- Tells what became of the permissions of a node. -/
def tell (s : Permitting) (path : String) (node : DiskNode) (mode : Nat) : ToolM Unit := do
  let quoted := shellQuoted path
  if node.mode != mode then
    if s.telling != .nothing then
      say s.name (s!"mode of {quoted} changed from " ++ shown node node.mode ++ " to " ++ shown node mode ++ "\n")
  else if s.telling == .all then say s.name (s!"mode of {quoted} retained as " ++ shown node mode ++ "\n")

/-- Changes the permissions of a node at a path. -/
def permit (s : Permitting) (path : String) (node : DiskNode) : ToolM Nat := do
  let isDirectory := isDirectoryNode node
  let mode := s.change.apply isDirectory (← disk).mask node.mode
  let _ ← edit (Disk.permit · path mode)
  s.tell path node mode
  let expected := s.change.apply isDirectory 0 node.mode
  if s.tellsSurprises && (mode &&& PermissionChange.without expected) != 0 then
    let letters (mode : Nat) : String := ((modeText { node with mode }).drop 1).toString
    complain s.name (s!"{shellQuotedIfNeeded path}: new permissions are " ++ letters mode ++ ", not " ++
      letters expected)
    pure 1
  else pure 0

/-- Changes the permissions of what is at a path, and below it by another action. A symbolic link below an operand is
left alone. -/
def permitWith (s : Permitting) (permitBelow : String → ToolM Nat) (isOperand : Bool) (path : String) : ToolM Nat := do
  let d ← disk
  match if isOperand then d.get path else d.getName path with
  | .error fault =>
    if fault == .noEntry && (d.getName path).toOption.any isLinkNode then
      s.refuse path s!"cannot operate on dangling symlink {shellQuoted path}"
    else s.refuse path s!"cannot access {shellQuoted path}: {fault.text}"
  | .ok node =>
    let place := (d.find path).toOption.getD []
    if isLinkNode node then
      if s.telling == .all then
        say s.name s!"neither symbolic link {shellQuoted path} nor referent has been changed\n"
      pure 0
    else if s.isRecursive && s.keepsRoot && place.isEmpty then
      complain s.name (s!"it is dangerous to operate recursively on {shellQuoted path}" ++
        (if path == "/" then "" else " (same as '/')"))
      complain s.name "use --no-preserve-root to override this failsafe"
      pure 1
    else
      let code ← s.permit path node
      if s.isRecursive && isDirectoryNode node then
        pure (max code (← eachOf (d.names place) fun name => permitBelow (inDirectory path name)))
      else pure code

/-- Changes the permissions of what is below an operand, down to a depth. -/
def permitBelow (s : Permitting) : Nat → String → ToolM Nat
  | 0 => fun _ => pure 0
  | depth + 1 => s.permitWith (permitBelow s depth) false

end Permitting

/-- Arguments of which some are changes of permissions although they begin with a dash: the change that they are
together, and the rest. -/
def withoutDashedChanges (args : List String) : Option String × List String :=
  let isFlag (c : Char) : Bool := "Rcfv".toList.contains c
  let isChange (arg : String) : Bool :=
    match arg.toList with
    | '-' :: '-' :: _ => false
    | '-' :: cs => ((cs.dropWhile isFlag).head?).any "rwxXstugoa,+=01234567".toList.contains
    | _ => false
  let before := args.takeWhile (· != "--")
  let changes := before.filter isChange
  let flags := changes.filterMap fun arg =>
    let taken := (arg.toList.drop 1).takeWhile isFlag
    if taken.isEmpty then none else some (String.ofList ('-' :: taken))
  (if changes.isEmpty then none else some (",".intercalate changes),
    flags ++ before.filter (fun arg => !isChange arg) ++ args.drop before.length)

/-- Changes permissions. -/
def chmod : Tool := fun name args => do
  let rules : List OptionRule :=
    [⟨"c", "changes", .none⟩, ⟨"R", "recursive", .none⟩, ⟨"", "no-preserve-root", .none⟩, ⟨"", "preserve-root", .none⟩,
     ⟨"", "quiet", .none⟩, ⟨"f", "silent", .none⟩, ⟨"v", "verbose", .none⟩, ⟨"", "reference", .required⟩]
  let (dashed?, args) := withoutDashedChanges args
  let (options, operands) ← readOptions name rules false 1 args
  let reference? := argument? options "reference"
  if reference?.isSome && dashed?.isSome then failWithHelp name "cannot combine mode and --reference options" 1
  let isGiven := reference?.isSome || dashed?.isSome
  let text := dashed?.getD (operands.headD "")
  let paths := if isGiven then operands else operands.drop 1
  if paths.isEmpty then
    if isGiven || operands.isEmpty then failWithHelp name "missing operand" 1
    else failWithHelp name s!"missing operand after {plainlyQuoted text}" 1
  let change ← match reference? with
    | some path =>
      match (← disk).get path with
      | .ok node => pure (PermissionChange.ofNumber true node.mode)
      | .error fault => fail name s!"failed to get attributes of {shellQuoted path}: {fault.text}" 1
    | none =>
      match PermissionChange.ofText? text with
      | some change => pure change
      | none => failWithHelp name s!"invalid mode: {plainlyQuoted text}" 1
  let names := options.map Prod.fst
  let style : Permitting :=
    { name, change
      isQuiet := has options "silent" || has options "quiet"
      isRecursive := has options "recursive"
      telling := match names.reverse.find? ["changes", "verbose"].contains with
        | some "changes" => .changes
        | some _ => .all
        | none => .nothing
      tellsSurprises := dashed?.isSome
      keepsRoot := names.reverse.find? ["preserve-root", "no-preserve-root"].contains == some "preserve-root" }
  eachOf paths (style.permitWith (style.permitBelow maxDepth) true)

end Rebuild.Tool
