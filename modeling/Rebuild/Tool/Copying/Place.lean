import Rebuild.Tool.Copying.Style

/-!
# What is there already

Before something is copied or moved to a path, it is looked at what is there: the same file, one that is not older, or
one of another kind. What may be replaced is removed or gets another name, if that is asked for.
-/

namespace Rebuild.Tool

open Text

/-- What a command remembers: the names that were sources and those that it made, each with the number of its node, and
the paths at which nodes were copied. -/
structure CopyMemory where
  /-- Whether there is more than one source. -/
  isTracking : Bool
  sources : List (Place × Nat)
  made : List (Place × Nat)
  copied : List (Nat × String)

/-- What is done while something is copied. -/
abbrev CopyM := StateT CopyMemory ToolM

/-- A name with the number of its node; a symbolic link is followed or not. -/
def nameOf? (d : Disk) (follows : Bool) (path : String) : Option (Place × Nat) := do
  let place ← (d.findName (Disk.withoutSlashes path)).toOption
  let number ← numberOf? d follows path
  some (place, number)

namespace CopyStyle

/-- Whether something may be copied to a path although what is there may be the same, and whether nothing is left to be
done then. What is there was looked at through a symbolic link or not. -/
def sameness (s : CopyStyle) (d : Disk) (follows seesThrough : Bool) (source target : String) : Bool × Bool :=
  let number := numberOf? d follows source
  let other := numberOf? d seesThrough target
  let isSame := number == other
  let isName := isOneName d source target
  let looksAtLinks := follows
  let sourceLink := if looksAtLinks then (d.getName source).toOption else (nodeOf d follows source).toOption
  let targetLink := if looksAtLinks then (d.getName target).toOption else (nodeOf d seesThrough target).toOption
  let isSameLink := if looksAtLinks then numberOf? d false source == numberOf? d false target else isSame
  let isSourceLink := sourceLink.any isLinkNode
  let isTargetLink := targetLink.any isLinkNode
  let hasMoreNames := (if looksAtLinks then numberOf? d false target else other).any fun n => 1 < d.nameCount n
  if isSame && s.making == .link then (true, true)
  else if !follows && isSourceLink && isTargetLink then
    if isName then (false, false)
    else if s.backup?.isSome then (true, false)
    else if isSame then (!s.isMove, true)
    else (true, false)
  else if follows && !isSame then (true, false)
  else if follows && isSourceLink && isTargetLink && s.removesFirst then (true, false)
  else if s.backup?.isSome then
    if isSameLink then (!isName, false)
    else (!(!s.isMove && follows && isSourceLink && !isTargetLink), false)
  else if (s.isMove || s.removesFirst) && isTargetLink then (true, false)
  else if (s.isMove || s.removesFirst) && isSameLink && hasMoreNames && !isName then (!s.isMove, false)
  else if !isSourceLink && !isTargetLink && !isSameLink then (true, false)
  else if !isSourceLink && !isTargetLink && s.making == .link then (true, true)
  else if s.isMove && isSourceLink && hasMoreNames then
    match d.find source, d.findName target with
    | .ok a, .ok b => (a != b, false)
    | _, _ => (true, false)
  else if s.making == .symbolicLink && isTargetLink then (true, false)
  else if !follows && numberOf? d true source != numberOf? d true target then (true, false)
  else if !follows && s.making == .link then (true, !isTargetLink)
  else (false, false)

/-- What is to be done about what is there: nothing more, or the copy is made, under a new name or over it, with the
path of its backup. -/
inductive Verdict where
  | done (isGood : Bool)
  | goes (isNew : Bool) (backup? : Option String)

/-- Gives what is there another name, if backups are made, or removes it where it must not be written over. -/
def makeRoom (s : CopyStyle) (follows : Bool) (source target : String) (node there : DiskNode) : ToolM Verdict := do
  let d ← disk
  let base := lastName source
  let makesBackup := base != "." && base != ".." && (s.isMove || !isDirectoryNode there)
  match s.backup?, makesBackup with
  | some style, true =>
    if style.wouldReplace d follows source target then
      let verb := if s.isMove then "moved" else "copied"
      pure (.done (← s.refuse
        (s!"backing up {shellQuoted target} might destroy source;  " ++ shellQuoted source ++ " not " ++ verb)))
    else
      let path := style.pathFor d target
      match ← edit (Disk.rename · false target path) with
      | .ok () => pure (.goes true (some path))
      | .error .noEntry => pure (.goes true none)
      | .error fault => pure (.done (← s.refuse s!"cannot backup {shellQuoted target}: {fault.text}"))
  | _, _ =>
    let hasMoreNames := (numberOf? d false target).any fun n => 1 < d.nameCount n
    let isPlain := match node.item with
      | .file _ | .program _ => true
      | _ => false
    if !isDirectoryNode there && !s.isMove &&
        (s.removesFirst || (s.copiesBytes && ((s.keepsLinks && hasMoreNames) || (!follows && !isPlain)))) then
      match ← edit (Disk.unlink · target) with
      | .ok () | .error .noEntry => do
        s.tell s!"removed {shellQuoted target}"
        pure (.goes true none)
      | .error fault => pure (.done (← s.refuse s!"cannot remove {shellQuoted target}: {fault.text}"))
    else pure (.goes false none)

/-- Looks at what is at the path to which something goes. -/
def checkThere (s : CopyStyle) (isOperand follows seesThrough : Bool) (source target : String) (node there : DiskNode) :
    CopyM Verdict := do
  let d ← disk
  let isDirectory := isDirectoryNode node
  let (isFine, isReady) := s.sameness d follows seesThrough source target
  if s.reply != .keep && !isFine then
    return .done (← s.refuse s!"{shellQuoted source} and {shellQuoted target} are the same file")
  if s.isUpdate && !isDirectory && node.modified ≤ there.modified then return .done true
  if s.isMove || !isDirectory then
    if s.reply == .keep then return .done true
    if s.reply == .ask then
      if !(← confirm s!"{s.name}: overwrite {shellQuoted target}? ") then return .done true
  if isReady then return .done true
  let mayReplaceKind := s.isMove && s.backup?.isSome
  if !isDirectoryNode there && isDirectory && !mayReplaceKind then
    return .done (← s.refuse
      s!"cannot overwrite non-directory {shellQuoted target} with directory {shellQuoted source}")
  if !isDirectoryNode there && isOperand && !s.backup?.any (·.kind == .numbered) &&
      (nameOf? d seesThrough target).any (← get).made.contains then
    return .done (← s.refuse s!"will not overwrite just-created {shellQuoted target} with {shellQuoted source}")
  if isDirectoryNode there && !isDirectory && !mayReplaceKind then
    return .done (← s.refuse s!"cannot overwrite directory {shellQuoted target} with non-directory")
  s.makeRoom follows source target node there

/-- Gives the backup of what was there its name again. -/
def restore (s : CopyStyle) (target : String) (backup? : Option String) : ToolM Unit := do
  match backup? with
  | none => pure ()
  | some path =>
    match ← edit (Disk.rename · false path target) with
    | .ok () => s.tell s!"{shellQuoted path} -> {shellQuoted target} (unbackup)"
    | .error fault => complain s.name s!"cannot un-backup {shellQuoted target}: {fault.text}"

/-- Remembers a name that was made. -/
def remember (isOperand : Bool) (target : String) : CopyM Unit := do
  let d ← disk
  if isOperand then
    modify fun m => if m.isTracking then { m with made := (nameOf? d false target).toList ++ m.made } else m

end CopyStyle

/-! ## Operands -/

/-- Where operands go: into a directory or to one path. -/
inductive Destination where
  | within (directory : String)
  | to (target : String)

/-- The path of a name in a directory, which may end with slashes. -/
def joinedPath (directory name : String) : String :=
  let short := Disk.withoutSlashes directory
  if short.isEmpty then (if name.startsWith "/" then directory ++ "." ++ name else directory ++ name)
  else if name.startsWith "/" then short ++ name
  else short ++ "/" ++ name

/-- The directory that options name to be the target, which they may do once. -/
def targetDirectory? (name : String) (options : List Given) : ToolM (Option String) := do
  match (options.filter fun given => given.1 == "target-directory").filterMap Prod.snd with
  | [] => pure none
  | [directory] => pure (some directory)
  | _ => fail name "multiple target directories specified" 1

/-- The sources among the operands, and where they go. `isPlain` tells that the last operand is no directory to put
something into. -/
def destination (name : String) (directory : Option String) (isPlain : Bool) (operands : List String) :
    ToolM (List String × Destination) := do
  let d ← disk
  match directory, isPlain, operands with
  | _, _, [] => failWithHelp name "missing file operand" 1
  | some _, true, _ => fail name "cannot combine --target-directory (-t) and --no-target-directory (-T)" 1
  | some directory, false, operands =>
    match d.get (inDirectory directory "") with
    | .ok _ => pure (operands, .within directory)
    | .error fault => fail name s!"target directory {shellQuoted directory}: {fault.text}" 1
  | none, _, [operand] => failWithHelp name s!"missing destination file operand after {shellQuoted operand}" 1
  | none, true, [source, target] => pure ([source], .to target)
  | none, true, _ :: _ :: extra :: _ => failWithHelp name s!"extra operand {shellQuoted extra}" 1
  | none, false, operands =>
    let target := operands.getLast?.getD ""
    let sources := operands.dropLast
    match d.get target with
    | .ok node =>
      if isDirectoryNode node then pure (sources, .within target)
      else if sources.length == 1 then pure (sources, .to target)
      else fail name s!"target {shellQuoted target}: {SystemFault.text .notDirectory}" 1
    | .error fault =>
      if sources.length == 1 then pure (sources, .to target)
      else fail name s!"target {shellQuoted target}: {fault.text}" 1

/-- Does something for each source with the path that it goes to. -/
def forEachSource (sources : List String) (destination : Destination) (action : String → String → CopyM Bool) :
    ToolM Nat := do
  let pairs := match destination with
    | .to target => (sources.take 1).map fun source => (source, target)
    | .within directory => sources.map fun source =>
      let base := lastName source
      (source, joinedPath directory (if base == ".." then "." else base))
  let isTracking := match destination with
    | .to _ => false
    | .within _ => 1 < sources.length
  let step (state : Nat × CopyMemory) (pair : String × String) : ToolM (Nat × CopyMemory) := do
    let (isDone, memory) ← (action pair.1 pair.2).run state.2
    pure (if isDone then state.1 else 1, memory)
  let (code, _) ← pairs.foldlM step (0, ⟨isTracking, [], [], []⟩)
  pure code

end Rebuild.Tool
