import Rebuild.Tool.Input
import Rebuild.Tool.Node
import Rebuild.Tool.Permissions

/-!
# Making directories

A directory is made with those that a path leads through, or alone.
-/

namespace Rebuild.Tool

open Text

/-- How directories are made. -/
structure DirectoryStyle where
  name : String
  /-- The permissions that are asked for of a directory that a path leads through, and of the last. -/
  aboveMode : Nat := 0o777
  mode? : Option Nat := none
  /-- Whether a directory that is there already keeps its permissions. -/
  keepsExisting : Bool := true
  /-- How a new directory is told, if it is. -/
  announcement? : Option String := none

namespace DirectoryStyle

/-- Complains of a directory that could not be made. -/
def refuse (s : DirectoryStyle) (path : String) (fault : SystemFault) : ToolM Bool := do
  complain s.name s!"cannot create directory {shellQuoted path}: {fault.text}"
  pure false

/-- Tells of a new directory, if that is wanted. -/
def announce (s : DirectoryStyle) (path : String) : ToolM Unit := do
  match s.announcement? with
  | some wording => say s.name (s.name ++ ": " ++ wording ++ " " ++ shellQuoted path ++ "\n")
  | none => pure ()

/-- A disk whose mask takes only so much of the owner's permissions that directories can be entered and changed. -/
def withOpenMask (d : Disk) : Disk :=
  { d with mask := d.mask &&& 0o7477 }

/-- Makes a directory that a path leads through, if it is not there. -/
def makeAbove (s : DirectoryStyle) (path : String) : ToolM Bool := do
  if path == ".." || path.endsWith "/.." then return true
  let d ← disk
  let made := (withOpenMask d).makeDirectory path s.aboveMode
  match made with
  | .ok changed => do
    modify fun p => { p with disk := { changed with mask := d.mask } }
    s.announce path
    pure true
  | .error fault =>
    match d.get path with
    | .ok node => if isDirectoryNode node then pure true else s.refuse path .notDirectory
    | .error .noEntry => s.refuse path fault
    | .error other => s.refuse path other

/-- The paths of the directories that a path leads through, the farthest first. -/
def leadingPaths (path : String) : List String :=
  let cs := path.toList
  ((List.range cs.length).filter fun i =>
    0 < i && cs[i]? == some '/' && cs[i - 1]? != some '/' && (cs.drop i).any (· != '/')).map fun i =>
      String.ofList (cs.take i)

/-- Makes the directories that a path leads through, as far as they are not there. -/
def makeLeading (s : DirectoryStyle) (path : String) : ToolM Bool := do
  let step (isGood : Bool) (above : String) : ToolM Bool := do
    if isGood then s.makeAbove above else pure false
  (leadingPaths path).foldlM step true

/-- Makes the last directory of a path. With `isLenient` it may be there already. -/
def makeLast (s : DirectoryStyle) (isLenient : Bool) (path : String) : ToolM Bool := do
  match ← edit (Disk.makeDirectory · path 0o777) with
  | .ok () => do
    match s.mode? with
    | some mode => let _ ← edit (Disk.permit · path mode)
    | none => pure ()
    s.announce path
    pure true
  | .error fault =>
    if isLenient && fault != .noEntry && (← disk).isDirectory path then
      match s.mode?, s.keepsExisting with
      | some mode, false => let _ ← edit (Disk.permit · path mode)
      | _, _ => pure ()
      pure true
    else s.refuse path fault

/-- Makes a directory with those that its path leads through. -/
def makePath (s : DirectoryStyle) (path : String) : ToolM Bool := do
  if ← s.makeLeading path then s.makeLast true path else pure false

end DirectoryStyle

/-- Makes directories. -/
def mkdir : Tool := fun name args => do
  let rules : List OptionRule :=
    [⟨"m", "mode", .required⟩, ⟨"p", "parents", .none⟩, ⟨"v", "verbose", .none⟩, ⟨"Z", "", .none⟩,
     ⟨"", "context", .optional⟩]
  let (options, operands) ← readOptions name rules false 1 args
  if (argument? options "context").isSome then
    complain name "warning: ignoring --context; it requires an SELinux/SMACK-enabled kernel"
  if operands.isEmpty then failWithHelp name "missing operand" 1
  let mask := (← disk).mask
  let mode? ← match argument? options "mode" with
    | none => pure none
    | some text =>
      match PermissionChange.ofText? text with
      | some change => pure (some (change.ofNewDirectory mask))
      | none => fail name s!"invalid mode {plainlyQuoted text}" 1
  let style : DirectoryStyle :=
    { name, mode?, announcement? := if has options "verbose" then some "created directory" else none }
  eachOf operands fun path => do
    let isGood ← if has options "parents" then style.makePath path else style.makeLast false path
    pure (if isGood then 0 else 1)

end Rebuild.Tool
