import Rebuild.Tool.Amount
import Rebuild.Tool.Input
import Rebuild.Tool.Node

/-!
# Removing

`rm` removes names, and directories with what is in them if that is asked for; `rmdir` removes directories in which
nothing is; `unlink` removes one name. A directory of which something was kept is kept without a word.
-/

namespace Rebuild.Tool

open Text

/-! ## Names -/

/-- When it is asked whether something is to be removed. -/
inductive Asking where
  | never
  /-- Once, before much is removed. -/
  | once
  | always
deriving DecidableEq, Repr

/-- How names are removed. -/
structure Removal where
  name : String
  asking : Asking := .never
  isRecursive : Bool := false
  /-- Whether empty directories are removed. -/
  removesEmpty : Bool := false
  /-- Whether it does not matter that something is not there. -/
  ignoresMissing : Bool := false
  isVerbose : Bool := false
  /-- Whether the root is kept. -/
  keepsRoot : Bool := true

namespace Removal

/-- Asks as often as a choice says. -/
def withAsking (s : Removal) (asking : Asking) : Removal :=
  { s with asking, ignoresMissing := s.ignoresMissing && asking == .never }

/-- Takes an option. -/
def take (s : Removal) (given : Given) : ToolM Removal := do
  match given with
  | ("force", _) => pure { s with asking := .never, ignoresMissing := true }
  | ("i", _) | ("interactive", none) => pure (s.withAsking .always)
  | ("I", _) => pure (s.withAsking .once)
  | ("interactive", some text) => do
    let choices : List (String × Asking) :=
      [("never", .never), ("no", .never), ("none", .never), ("once", .once), ("always", .always), ("yes", .always)]
    pure (s.withAsking (← readChoice s.name "--interactive" 1 choices text))
  | ("no-preserve-root", _) => pure { s with keepsRoot := false }
  | ("preserve-root", some text) =>
    if text == "all" then pure { s with keepsRoot := true }
    else fail s.name s!"unrecognized --preserve-root argument: {shellQuoted text}" 1
  | ("preserve-root", none) => pure { s with keepsRoot := true }
  | ("recursive", _) => pure { s with isRecursive := true }
  | ("dir", _) => pure { s with removesEmpty := true }
  | ("verbose", _) => pure { s with isVerbose := true }
  | _ => pure s

/-- What became of a name: whether all was well, and whether the directories above it are kept for it. -/
structure Removed where
  isGood : Bool
  holdsAbove : Bool := false

/-- Complains, and keeps the directories above or not. -/
def refuse (s : Removal) (holdsAbove : Bool) (text : String) : ToolM Removed := do
  complain s.name text
  pure ⟨false, holdsAbove⟩

/-- Asks whether something is to be done, if questions are asked. -/
def agrees (s : Removal) (question : String) : ToolM Bool :=
  if s.asking == .always then confirm s!"{s.name}: {question}? " else pure true

/-- Removes a name. -/
def removeName (s : Removal) (isDirectory : Bool) (path : String) : ToolM Removed := do
  match ← edit fun d => if isDirectory then d.removeDirectory path else d.unlink path with
  | .ok () => do
    if s.isVerbose then
      say s.name ((if isDirectory then "removed directory " else "removed ") ++ shellQuoted path ++ "\n")
    pure ⟨true, false⟩
  | .error fault =>
    if s.ignoresMissing && (fault == .noEntry || fault == .notDirectory) then pure ⟨true, false⟩
    else s.refuse true s!"cannot remove {shellQuoted path}: {fault.text}"

/-- Removes a directory with what is in it. -/
def removeDirectory (s : Removal) (removeBelow : String → ToolM Removed) (path : String) (names : List String) :
    ToolM Removed := do
  if names.isEmpty && s.asking == .always then
    if ← s.agrees s!"remove directory {shellQuoted path}" then s.removeName true path else pure ⟨true, true⟩
  else if !(← s.agrees s!"descend into directory {shellQuoted path}") then pure ⟨true, true⟩
  else
    let step (state : Removed) (name : String) : ToolM Removed := do
      let below ← removeBelow (inDirectory path name)
      pure ⟨state.isGood && below.isGood, state.holdsAbove || below.holdsAbove⟩
    let inside ← names.foldlM step ⟨true, false⟩
    if inside.holdsAbove then pure inside
    else if !(← s.agrees s!"remove directory {shellQuoted path}") then pure inside
    else
      let removed ← s.removeName true path
      pure ⟨inside.isGood && removed.isGood, removed.holdsAbove⟩

/-- Removes what a path names, of which a directory is removed with what is in it. -/
def removeWith (s : Removal) (removeBelow : String → ToolM Removed) (isOperand : Bool) (path : String) :
    ToolM Removed := do
  let d ← disk
  match d.getName path with
  | .error fault =>
    if s.asking == .always then s.refuse false s!"cannot remove {shellQuoted path}: {fault.text}"
    else s.removeName false path
  | .ok node =>
    let place := (d.findName path).toOption.getD []
    let names := d.names place
    if !isDirectoryNode node then
      if ← s.agrees s!"remove {kindName node} {shellQuoted path}" then s.removeName false path else pure ⟨true, false⟩
    else if !s.isRecursive && !(s.removesEmpty && names.isEmpty) then
      let fault := if s.removesEmpty then SystemFault.notEmpty else .isDirectory
      s.refuse true s!"cannot remove {shellQuoted path}: {fault.text}"
    else if isOperand && (lastName path == "." || lastName path == "..") then
      s.refuse true s!"refusing to remove '.' or '..' directory: skipping {shellQuoted path}"
    else if isOperand && s.keepsRoot && place.isEmpty then
      complain s.name (s!"it is dangerous to operate recursively on {shellQuoted path}" ++
        (if path == "/" then "" else " (same as '/')"))
      s.refuse true "use --no-preserve-root to override this failsafe"
    else s.removeDirectory removeBelow path names

/-- Removes what a path below an operand names, down to a depth. -/
def removeBelow (s : Removal) : Nat → String → ToolM Removed
  | 0 => fun path => s.removeName true path
  | depth + 1 => s.removeWith (removeBelow s depth) false

/-- Asks once whether operands are to be removed, if that is wanted and they are many or directories. -/
def agreesOnce (s : Removal) (count : Nat) : ToolM Bool :=
  let noun := if count == 1 then "argument" else "arguments"
  if s.asking == .once && (s.isRecursive || 3 < count) then
    confirm (s!"{s.name}: remove {count} {noun}" ++ (if s.isRecursive then " recursively? " else "? "))
  else pure true

end Removal

/-- Removes files and directories. -/
def rm : Tool := fun name args => do
  let rules : List OptionRule :=
    [⟨"f", "force", .none⟩, ⟨"i", "", .none⟩, ⟨"I", "", .none⟩, ⟨"", "interactive", .optional⟩,
     ⟨"", "one-file-system", .none⟩, ⟨"", "no-preserve-root", .none⟩, ⟨"", "preserve-root", .optional⟩,
     ⟨"rR", "recursive", .none⟩, ⟨"d", "dir", .none⟩, ⟨"v", "verbose", .none⟩]
  let (removal, operands) ← foldOptions name rules false 1 args ({ name } : Removal) Removal.take
  if operands.isEmpty then
    if removal.ignoresMissing then pure 0 else failWithHelp name "missing operand" 1
  else if ← removal.agreesOnce operands.length then
    eachOf operands fun path => do
      let removed ← removal.removeWith (removal.removeBelow maxDepth) true path
      pure (if removed.isGood then 0 else 1)
  else pure 0

/-! ## Empty directories -/

/-- The paths of the directories that a path leads through, the nearest first. A path from the root ends there. -/
def pathsAbove (path : String) : List String :=
  go path.length (trimmed path)
where
  /-- The paths above a path, at most so many. -/
  go : Nat → String → List String
    | 0, _ => []
    | limit + 1, path =>
      if !path.toList.contains '/' then []
      else
        let above := directoryName path
        above :: (if above == "/" then [] else go limit above)

/-- Removes an empty directory, and those above it if that is asked for. -/
def removeUpwards (name : String) (options : List Given) (path : String) : ToolM Nat := do
  let announce (path : String) : ToolM Unit := do
    if has options "verbose" then say name s!"{name}: removing directory, {shellQuoted path}\n"
  let isIgnored (fault : SystemFault) : Bool :=
    has options "ignore-fail-on-non-empty" && (fault == .notEmpty || fault == .busy)
  announce path
  match ← edit (Disk.removeDirectory · path) with
  | .error fault =>
    if isIgnored fault then pure 0
    else
      let d ← disk
      let leadsOn := path.endsWith "/" && (d.getName (Disk.withoutSlashes path)).toOption.any isLinkNode &&
        (match d.get path with
          | .ok node => isDirectoryNode node
          | .error fault => fault != .notDirectory)
      complain name (s!"failed to remove {shellQuoted path}: " ++
        (if fault == .notDirectory && leadsOn then "Symbolic link not followed" else fault.text))
      pure 1
  | .ok () =>
    let step (state : Nat × Bool) (above : String) : ToolM (Nat × Bool) := do
      if state.2 then pure state
      else
        announce above
        match ← edit (Disk.removeDirectory · above) with
        | .ok () => pure state
        | .error fault => do
          if isIgnored fault then pure (state.1, true)
          else
            complain name ((if fault == .notDirectory then "failed to remove " else "failed to remove directory ") ++
              s!"{shellQuoted above}: {fault.text}")
            pure (1, true)
    let (code, _) ← (if has options "parents" then pathsAbove path else []).foldlM step (0, false)
    pure code

/-- Removes empty directories. -/
def rmdir : Tool := fun name args => do
  let rules : List OptionRule :=
    [⟨"", "ignore-fail-on-non-empty", .none⟩, ⟨"p", "parents", .none⟩, ⟨"v", "verbose", .none⟩]
  let (options, operands) ← readOptions name rules false 1 args
  if operands.isEmpty then failWithHelp name "missing operand" 1
  else eachOf operands (removeUpwards name options)

/-! ## One name -/

/-- Removes a name. -/
def unlink : Tool := fun name args => do
  let (_, operands) ← readOptions name [] false 1 args
  match operands with
  | [] => failWithHelp name "missing operand" 1
  | _ :: extra :: _ => failWithHelp name s!"extra operand {plainlyQuoted extra}" 1
  | [path] =>
    match ← edit (Disk.unlink · path) with
    | .ok () => pure 0
    | .error fault => fail name s!"cannot unlink {shellQuoted path}: {fault.text}" 1

end Rebuild.Tool
