import Rebuild.Tool.Copying.Place

/-!
# Moving

`mv` gives files and directories other names, each within a directory if the last operand is one.
-/

namespace Rebuild.Tool

open Text

namespace CopyStyle

/-- What a path names for the system: a path without characters is the working directory. -/
def orHere (path : String) : String :=
  if path.isEmpty then "." else path

/-- Gives what a path names another name, of which something was there. -/
def renameOver (s : CopyStyle) (source target : String) (node : DiskNode) (backup? : Option String) : CopyM Bool := do
  match ← edit (Disk.rename · false source (orHere target)) with
  | .ok () => do
    let d ← disk
    s.tellPair "renamed " source target backup?
    modify fun m => if m.isTracking then { m with made := (nameOf? d (isLinkNode node) target).toList ++ m.made } else m
    pure true
  | .error fault =>
    let _ ← match fault with
      | .invalid => s.refuse s!"cannot move {shellQuoted source} to a subdirectory of itself, {shellQuoted target}"
      | .exists | .isDirectory | .noSpace | .notEmpty =>
        s.refuse s!"cannot overwrite {shellQuoted target}: {fault.text}"
      | _ => s.refuse s!"cannot move {shellQuoted source} to {shellQuoted target}: {fault.text}"
    s.restore target backup?
    pure false

/-- Moves what a path names. A name that is new is given at once. -/
def moveTo (s : CopyStyle) (source target : String) : CopyM Bool := do
  match ← edit (Disk.rename · true source target) with
  | .ok () => do
    let d ← disk
    s.tellPair "renamed " source target none
    modify fun m => if m.isTracking then { m with made := (nameOf? d false target).toList ++ m.made } else m
    pure true
  | .error first =>
    let d ← disk
    if first == .exists && s.reply == .keep then return true
    match d.getName source with
    | .error fault => s.refuse s!"cannot stat {shellQuoted source}: {fault.text}"
    | .ok node =>
      match d.getName (orHere target) with
      | .error .noEntry => refuseFirst first
      | .error fault => s.refuse s!"cannot stat {shellQuoted target}: {fault.text}"
      | .ok there =>
        match ← s.checkThere true false false source target node there with
        | .done isGood => pure isGood
        | .goes _ backup? => s.renameOver source target node backup?
where
  /-- Complains of what was wrong with the first attempt. -/
  refuseFirst (fault : SystemFault) : ToolM Bool :=
    match fault with
    | .invalid => s.refuse s!"cannot move {shellQuoted source} to a subdirectory of itself, {shellQuoted target}"
    | _ => s.refuse s!"cannot move {shellQuoted source} to {shellQuoted target}: {fault.text}"

end CopyStyle

/-- Moves files. -/
def mv : Tool := fun name args => do
  let (options, operands) ← readOptions name targetRules false 1 args
  let style ← options.foldlM CopyStyle.take ({ name, isMove := true } : CopyStyle)
  let directory? ← targetDirectory? name options
  let style ← style.complete options
  let isPlain := has options "no-target-directory"
  let isNew ← match directory?, isPlain, operands with
    | none, false, [source, target] => pure ((← disk).rename true source target).toOption.isSome
    | _, _, _ => pure false
  let (sources, destination) ← if isNew then pure (operands.take 1, .to (operands.getLast?.getD ""))
    else destination name directory? isPlain operands
  let sources := if has options "strip-trailing-slashes" then sources.map trimmed else sources
  let destination := match destination with
    | .within directory => .within directory
    | .to target => .to (if has options "strip-trailing-slashes" then trimmed target else target)
  forEachSource sources destination style.moveTo

end Rebuild.Tool
