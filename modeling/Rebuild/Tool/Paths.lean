import Rebuild.Tool.Input

/-!
# Programs that tell paths

They print parts of paths, what symbolic links hold, and where paths lead.
-/

namespace Rebuild.Tool

/-! ## Parts of paths -/

/-- A path without the slashes at its end; slashes alone are one slash. -/
def trimmed (path : String) : String :=
  let rest := (path.dropEndWhile '/').toString
  if rest.isEmpty && !path.isEmpty then "/" else rest

/-- The last name of a path. -/
def lastName (path : String) : String :=
  let path := trimmed path
  if path == "/" then path else String.ofList ((path.toList.reverse.takeWhile (· != '/')).reverse)

/-- What leads to the last part of a path. -/
def directoryName (path : String) : String :=
  let above := (trimmed path).toList.reverse.dropWhile (· != '/')
  let short := String.ofList (above.dropWhile (· == '/')).reverse
  if !short.isEmpty then short else if Path.isAbsolute path then "/" else "."

/-- A name without an ending, unless it is nothing else. -/
def withoutEnding (ending name : String) : String :=
  if name != ending && name != "/" && name.endsWith ending then (name.dropEnd ending.length).toString else name

/-- Prints the last parts of paths. -/
def basename : Tool := fun name args => do
  let rules : List OptionRule := [⟨"a", "multiple", .none⟩, ⟨"s", "suffix", .required⟩, ⟨"z", "zero", .none⟩]
  let (options, operands) ← readOptions name rules true 1 args
  let ending := if has options "zero" then "\x00" else "\n"
  let isMultiple := has options "multiple" || has options "suffix"
  match operands, isMultiple with
  | [], _ => failWithHelp name "missing operand" 1
  | [path], false => say name (lastName path ++ ending)
  | [path, last], false => say name (withoutEnding last (lastName path) ++ ending)
  | _ :: _ :: extra :: _, false => failWithHelp name s!"extra operand {Text.plainlyQuoted extra}" 1
  | paths, true =>
    for path in paths do
      say name (withoutEnding ((argument? options "suffix").getD "") (lastName path) ++ ending)
  pure 0

/-- Prints what leads to the last parts of paths. -/
def dirname : Tool := fun name args => do
  let (options, operands) ← readOptions name [⟨"z", "zero", .none⟩] true 1 args
  if operands.isEmpty then failWithHelp name "missing operand" 1
  for path in operands do say name (directoryName path ++ (if has options "zero" then "\x00" else "\n"))
  pure 0

/-! ## Where paths lead -/

/-- How much of a path has to be there. -/
inductive Presence where
  | all
  | allButLast
  | nothing
deriving DecidableEq, Repr

/-- The place that a path leads to, of which so much has to be there. -/
def placeOfPath (d : Disk) (presence : Presence) (path : String) : Except SystemFault Place :=
  match presence with
  | .all => do
    let place ← d.find path
    let _ ← d.nodeAt place
    pure place
  | .allButLast => d.find (trimmed path)
  | .nothing =>
    let step (place : Place) (c : String) : Place :=
      if c == "." then place
      else if c == ".." then place.dropLast
      else (d.find (Disk.pathOf (place ++ [c]))).toOption.getD (place ++ [c])
    if path.isEmpty then .error .noEntry
    else .ok ((Path.components path).foldl step (if Path.isAbsolute path then [] else d.cwd))

/-- Prints what symbolic links hold, or where paths lead. -/
def readlink : Tool := fun name args => do
  let rules : List OptionRule :=
    [⟨"e", "canonicalize-existing", .none⟩, ⟨"f", "canonicalize", .none⟩, ⟨"m", "canonicalize-missing", .none⟩,
     ⟨"n", "no-newline", .none⟩, ⟨"q", "quiet", .none⟩, ⟨"s", "silent", .none⟩, ⟨"v", "verbose", .none⟩,
     ⟨"z", "zero", .none⟩]
  let (options, operands) ← readOptions name rules false 1 args
  if operands.isEmpty then failWithHelp name "missing operand" 1
  let ending := if has options "zero" then "\x00" else "\n"
  let isLone := operands.length == 1
  if has options "no-newline" && !isLone then complain name "ignoring --no-newline with multiple arguments"
  let ending := if has options "no-newline" && isLone then "" else ending
  let kinds := ["canonicalize-existing", "canonicalize", "canonicalize-missing"]
  let presence : Option Presence := match (options.map Prod.fst).reverse.find? kinds.contains with
    | some "canonicalize-existing" => some .all
    | some "canonicalize" => some .allButLast
    | some _ => some .nothing
    | none => none
  eachOf operands fun path => do
    let d ← disk
    let found : Except SystemFault String := match presence with
      | some presence => (placeOfPath d presence path).map Disk.pathOf
      | none => do
        match (← d.getName path).item with
        | .link target => pure target
        | _ => throw .invalid
    match found with
    | .ok text => do
      say name (text ++ ending)
      pure 0
    | .error fault => do
      if has options "verbose" then complain name (plainComplaint path fault)
      pure 1

/-- The path from one place to another. -/
def pathBetween (start target : Place) : String :=
  let shared := ((start.zip target).takeWhile fun (a, b) => a == b).length
  let steps := List.replicate (start.length - shared) ".." ++ target.drop shared
  if steps.isEmpty then "." else "/".intercalate steps

/-- Prints where paths lead. -/
def realpath : Tool := fun name args => do
  let rules : List OptionRule :=
    [⟨"e", "canonicalize-existing", .none⟩, ⟨"m", "canonicalize-missing", .none⟩, ⟨"L", "logical", .none⟩,
     ⟨"P", "physical", .none⟩, ⟨"q", "quiet", .none⟩, ⟨"", "relative-to", .required⟩, ⟨"", "relative-base", .required⟩,
     ⟨"s", "strip", .none⟩, ⟨"", "no-symlinks", .none⟩, ⟨"z", "zero", .none⟩]
  let (options, operands) ← readOptions name rules false 1 args
  if operands.isEmpty then failWithHelp name "missing operand" 1
  let presence : Presence := match (options.map Prod.fst).reverse.find?
      ["canonicalize-existing", "canonicalize-missing"].contains with
    | some "canonicalize-existing" => .all
    | some _ => .nothing
    | none => .allButLast
  let isLogical := has options "strip" || has options "no-symlinks"
  let resolve (path : String) : ToolM (Except SystemFault Place) := do
    let d ← disk
    if !isLogical then pure (placeOfPath d presence path)
    else
      let step (place : Place) (c : String) : Place :=
        if c == "." then place else if c == ".." then place.dropLast else place ++ [c]
      pure (if path.isEmpty then .error .noEntry
        else .ok ((Path.components path).foldl step (if Path.isAbsolute path then [] else d.cwd)))
  let directory (option : String) : ToolM (Option Place) := do
    match argument? options option with
    | none => pure none
    | some path =>
      match ← resolve path with
      | .ok place => pure (some place)
      | .error fault => fail name (plainComplaint path fault) 1
  let base ← directory "relative-base"
  let start ← directory "relative-to"
  eachOf operands fun path => do
    match ← resolve path with
    | .ok place => do
      let isInside := match base with
        | some base => base.isPrefixOf place
        | none => true
      let text := match start, base with
        | none, none => Disk.pathOf place
        | some start, _ => if isInside then pathBetween start place else Disk.pathOf place
        | none, some base => if isInside then pathBetween base place else Disk.pathOf place
      say name (text ++ (if has options "zero" then "\x00" else "\n"))
      pure 0
    | .error fault => do
      unless has options "quiet" do
        complain name ((if path.isEmpty then "''" else Text.shellQuotedIfNeeded path) ++ ": " ++ fault.text)
      pure 1

/-- Prints the working directory. -/
def pwd : Tool := fun name args => do
  let (_, operands) ← readOptions name [⟨"L", "logical", .none⟩, ⟨"P", "physical", .none⟩] false 1 args
  unless operands.isEmpty do complain name "ignoring non-option arguments"
  say name (Disk.pathOf (← disk).cwd ++ "\n")
  pure 0

end Rebuild.Tool
