import Rebuild.Tool.Copying.Place

/-!
# Copying

`cp` gives files and directories new names with what they hold, each within a directory if the last operand is one. A
node that was copied before by the same command gets another name there, if that is to be kept.
-/

namespace Rebuild.Tool

open Text

namespace CopyStyle

/-! ## Files -/

/-- Gives a copy the time and the permissions of what was copied, as far as that is wanted. -/
def keepAttributes (s : CopyStyle) (node : DiskNode) (isNew : Bool) (target : String) : ToolM Unit := do
  let isLink := isLinkNode node
  if s.keepsTimes then
    let _ ← edit (Disk.stamp · (!isLink) target node.modified)
  if !isLink then
    match s.mode? with
    | some mode => let _ ← edit (Disk.permit · target mode)
    | none =>
      if s.keepsMode then
        let _ ← edit (Disk.permit · target node.mode)
      else if s.dropsMode && isNew then
        let _ ← edit fun d => d.permit target (d.masked (if isDirectoryNode node then 0o777 else 0o666))

/-- Copies the bytes of a file. -/
def copyBytes (s : CopyStyle) (source target : String) (node : DiskNode) (isNew : Bool) : ToolM Bool := do
  match ← Process.takeFile source with
  | .error fault => s.refuse s!"cannot open {shellQuoted source} for reading: {fault.text}"
  | .ok bytes =>
    let p ← getThe Process
    let isDangling := isNew && ((p.disk.getName target).toOption.any isLinkNode)
    if isDangling then s.refuse s!"not writing through dangling symlink {shellQuoted target}"
    else
      match p.openPath target (if s.copiesBytes then .write else .append) (s.mode?.getD node.mode) with
      | .error fault =>
        let fault := if fault == .isDirectory && target.endsWith "/" then SystemFault.notDirectory else fault
        s.refuse s!"cannot create regular file {shellQuoted target}: {fault.text}"
      | .ok (number, p) => do
        set p
        match ← Process.writeFile number (if s.copiesBytes then bytes else .empty) with
        | .error fault =>
          endBySignal fault
          s.refuse s!"error writing {shellQuoted target}: {fault.text}"
        | .ok () =>
          match node.item with
          | .program _ => do
            let p ← getThe Process
            let place := (p.disk.find target).toOption.bind p.disk.number?
            set { p with
              disk := (place.map fun n => p.disk.alter n fun there => { there with item := node.item }).getD p.disk }
          | _ => pure ()
          s.keepAttributes node isNew target
          pure true

/-- Lets a path be another name of what is at a place; what is there already is replaced if that is allowed. Whether
something was replaced is told. -/
def linkPlace (replaces : Bool) (source : Except SystemFault Place) (target : String) :
    ToolM (Except SystemFault Bool) := do
  let make (d : Disk) : Except SystemFault Disk := do d.linkTo (← source) target
  match ← edit make with
  | .ok () => pure (.ok false)
  | .error .exists =>
    if replaces then pure ((← edit fun d => do make (← d.unlink target)).map fun _ => true) else pure (.error .exists)
  | .error fault => pure (.error fault)

/-- Makes another name of what a path leads to. -/
def makeName (s : CopyStyle) (follows replaces saysRemoved : Bool) (source target : String) : ToolM Bool := do
  match ← linkPlace replaces ((← disk).locate follows source) target with
  | .ok isReplaced => do
    if isReplaced && saysRemoved then s.tell s!"removed {shellQuoted target}"
    pure true
  | .error fault => s.refuse s!"cannot create hard link {shellQuoted target} to {shellQuoted source}: {fault.text}"

/-- Makes a symbolic link; what is there already is replaced if that is allowed. -/
def makeSymbolicLink (replaces : Bool) (held target : String) : ToolM (Except SystemFault Unit) := do
  match ← edit (Disk.makeLink · target held) with
  | .error .exists =>
    if replaces then edit fun d => do (← d.unlink target).makeLink target held else pure (.error .exists)
  | result => pure result

/-- Makes a file out of another that is no directory. -/
def makeFile (s : CopyStyle) (follows : Bool) (source target : String) (node : DiskNode) (isNew : Bool) :
    ToolM Bool := do
  match s.making, node.item with
  | .symbolicLink, _ =>
    let d ← disk
    let isHere := (d.find (directoryName target)).toOption == some d.cwd
    if !Path.isAbsolute source && !isHere then
      s.refuse s!"{shellQuotedIfNeeded target}: can make relative symbolic links only in current directory"
    else
      match ← makeSymbolicLink s.isForced source target with
      | .ok () => pure true
      | .error fault =>
        s.refuse s!"cannot create symbolic link {shellQuoted target} to {shellQuoted source}: {fault.text}"
  | .link, _ => s.makeName follows (s.isForced || s.reply == .ask) false source target
  | .copy, .link held =>
    match ← makeSymbolicLink s.isForced held target with
    | .ok () => do
      s.keepAttributes node isNew target
      pure true
    | .error fault => s.refuse s!"cannot create symbolic link {shellQuoted target}: {fault.text}"
  | .copy, .device kind =>
    if s.isRecursive then
      match ← edit fun d => do
          let place ← d.findName target
          d.enter place.dropLast
          pure (d.put place (.device kind) (d.masked node.mode)) with
      | .ok () => pure true
      | .error fault => s.refuse s!"cannot create special file {shellQuoted target}: {fault.text}"
    else s.copyBytes source target node isNew
  | .copy, _ => s.copyBytes source target node isNew

/-! ## Nodes that were copied before -/

/-- Where a node was copied before, if that counts. A node that counts from now on is remembered. -/
def earlierPath? (s : CopyStyle) (isOperand follows : Bool) (source target : String) (node : DiskNode) :
    CopyM (Option String) := do
  let d ← disk
  match numberOf? d follows source with
  | none => pure none
  | some number =>
    let earlier? := (← get).copied.lookup number
    let rememberIt : CopyM Unit := do
      if earlier?.isNone then modify fun m => { m with copied := (number, target) :: m.copied }
    if s.isRecursive && isDirectoryNode node then
      if isOperand then rememberIt
      pure earlier?
    else if s.keepsLinks && s.making != .link && !isDirectoryNode node &&
        (1 < d.nameCount number || (isOperand && s.follows == .operands) || s.follows == .always) then
      rememberIt
      pure earlier?
    else pure none

/-- What is made of a node that was copied before: whether all was well, and whether a directory would be copied into
itself; nothing if it is copied all the same. -/
def again? (s : CopyStyle) (isOperand follows : Bool) (top : String × String) (source target : String) (node : DiskNode)
    (earlier : String) : ToolM (Option (Bool × Bool)) := do
  let d ← disk
  if !isDirectoryNode node then pure (some (← s.makeName follows true s.isVerbose earlier target, false))
  else if isOneName d source earlier then
    let isDone ← s.refuse s!"cannot copy a directory, {shellQuoted top.1}, into itself, {shellQuoted top.2}"
    pure (some (isDone, true))
  else if isOneName d target earlier then
    complain s.name s!"warning: source directory {shellQuoted top.1} specified more than once"
    pure (some (true, false))
  else if s.follows == .always || (isOperand && s.follows == .operands) then pure none
  else
    let isDone ← s.refuse s!"will not create hard link {shellQuoted target} to directory {shellQuoted earlier}"
    pure (some (isDone, false))

/-! ## Copies -/

/-- What is made of a source and a target: whether all was well, and whether a directory would have been copied into
itself. -/
abbrev Copier := (hasMade : Bool) → (source target : String) → CopyM (Bool × Bool)

/-- Makes a directory if it is not there, and copies what is in it. `hasMade` tells that a directory was made for the
operand. -/
def copyDirectory (s : CopyStyle) (copyBelow : Copier) (follows hasMade : Bool) (source target : String)
    (node : DiskNode)
    (isNew : Bool) : CopyM (Bool × Bool) := do
  let made ← if isNew then edit (Disk.makeDirectory · target node.mode) else pure (.ok ())
  match made with
  | .error fault => pure (← s.refuse s!"cannot create directory {shellQuoted target}: {fault.text}", false)
  | .ok () => do
    if isNew then
      let d ← disk
      if !hasMade then
        modify fun m => { m with copied := ((numberOf? d true target).map (·, target)).toList ++ m.copied }
      s.tellPair "" source target none
    let d ← disk
    let place := (d.locate follows source).toOption.getD []
    let numbered := (d.names place).map fun name => (name, (d.number? (place ++ [name])).getD 0)
    let names := (numbered.mergeSort fun a b => a.2 ≤ b.2).map Prod.fst
    let step (state : Bool × Bool) (name : String) : CopyM (Bool × Bool) := do
      if state.2 then pure state
      else
        let (isGood, isInto) ← copyBelow (hasMade || isNew) (joinedPath source name) (joinedPath target name)
        pure (state.1 && isGood, isInto)
    let result ← names.foldlM step (true, false)
    s.keepAttributes node isNew target
    pure result

/-- Copies a node to a path at which there is nothing that has to be kept. -/
def copyNode (s : CopyStyle) (copyBelow : Copier) (isOperand follows hasMade : Bool) (top : String × String)
    (source target : String) (node : DiskNode) (isNew : Bool) (backup? : Option String) : CopyM (Bool × Bool) := do
  let isDirectory := isDirectoryNode node
  if !isDirectory then s.tellPair "" source target backup?
  let again? ← match ← s.earlierPath? isOperand follows source target node with
    | some earlier => s.again? isOperand follows top source target node earlier
    | none => pure none
  let result ← match again? with
    | some result => pure result
    | none =>
      if isDirectory then s.copyDirectory copyBelow follows hasMade source target node isNew
      else do pure (← s.makeFile follows source target node isNew, false)
  if result.1 then remember isOperand target
  else if !isDirectory then s.restore target backup?
  pure result

/-- Looks at a path before a node is copied there. -/
def prepare (s : CopyStyle) (isOperand follows : Bool) (source target : String) (node : DiskNode) : CopyM Verdict := do
  let d ← disk
  let isPlain := match node.item with
    | .file _ | .program _ => true
    | _ => false
  let seesThrough := (isPlain || (!s.isRecursive && !isLinkNode node)) && s.making == .copy && s.backup?.isNone &&
    !s.removesFirst
  match nodeOf d seesThrough target with
  | .ok there => s.checkThere isOperand follows seesThrough source target node there
  | .error .noEntry => pure (.goes true none)
  | .error fault =>
    if fault == .tooManyLinks && s.isForced then
      let _ ← edit (Disk.unlink · target)
      pure (.goes true none)
    else pure (.done (← s.refuse s!"cannot stat {shellQuoted target}: {fault.text}"))

/-- Whether an operand was given before; otherwise it is remembered. -/
def isRepeated (s : CopyStyle) (isOperand follows : Bool) (source : String) (node : DiskNode) : CopyM Bool := do
  let here := nameOf? (← disk) follows source
  let m ← getThe CopyMemory
  if !m.isTracking || !isOperand || s.mode?.isSome then pure false
  else if !isDirectoryNode node && s.backup?.isNone && here.any m.sources.contains then
    complain s.name s!"warning: source file {shellQuoted source} specified more than once"
    pure true
  else
    set { m with sources := here.toList ++ m.sources }
    pure false

/-- Whether a path is that of a symbolic link that the same command made. -/
def isOwnLink (s : CopyStyle) (isOperand : Bool) (target : String) : CopyM Bool := do
  let d ← disk
  let m ← getThe CopyMemory
  pure (isOperand && s.backup?.isNone && (d.getName target).toOption.any isLinkNode &&
    (nameOf? d false target).any m.made.contains)

/-- Copies what a path leads to. -/
def copyWith (s : CopyStyle) (copyBelow : Copier) (isOperand hasMade : Bool) (top : String × String)
    (source target : String) : CopyM (Bool × Bool) := do
  let follows := s.follows == .always || (isOperand && s.follows == .operands)
  match nodeOf (← disk) follows source with
  | .error fault => pure (← s.refuse s!"cannot stat {shellQuoted source}: {fault.text}", false)
  | .ok node =>
    if isDirectoryNode node && !s.isRecursive then
      let wording := if s.mode?.isSome then "omitting directory " else "-r not specified; omitting directory "
      pure (← s.refuse (wording ++ shellQuoted source), false)
    else if ← s.isRepeated isOperand follows source node then pure (true, false)
    else
      match ← s.prepare isOperand follows source target node with
      | .done isGood => pure (isGood, false)
      | .goes isNew backup? =>
        if ← s.isOwnLink isOperand target then
          let text := s!"will not copy {shellQuoted source} through just-created symlink {shellQuoted target}"
          pure (← s.refuse text, false)
        else s.copyNode copyBelow isOperand follows hasMade top source target node isNew backup?

/-- Copies what is below an operand, down to a depth. -/
def copyBelow (s : CopyStyle) (top : String × String) : Nat → Copier
  | 0 => fun _ source _ => do
    pure (← s.refuse s!"cannot access {shellQuoted source}: {SystemFault.text .tooManyLinks}", false)
  | depth + 1 => fun hasMade source target =>
    s.copyWith (copyBelow s top depth) false hasMade top source target

/-- Copies an operand. -/
def copyOperand (s : CopyStyle) (source target : String) : CopyM Bool := do
  let (isDone, _) ← s.copyWith (s.copyBelow (source, target) maxDepth) true false (source, target) source target
  pure isDone

/-! ## Directories that lead to operands -/

/-- Makes the directories in a directory through which a path leads. Which were made is told, with the directories that
they are like. -/
def makeParents (s : CopyStyle) (directory path : String) : ToolM (Option (List (String × DiskNode))) := do
  let names := (Disk.parts path).dropLast
  let starts := (List.range names.length).map fun i => "/".intercalate (names.take (i + 1))
  let step (state : Option (List (String × DiskNode))) (start : String) :
      ToolM (Option (List (String × DiskNode))) := do
    match state with
    | none => pure none
    | some found =>
      let target := joinedPath directory start
      let d ← disk
      if start.isEmpty then pure (some found)
      else
        match d.get target with
        | .ok there =>
          if isDirectoryNode there then pure (some found)
          else do
            complain s.name s!"{shellQuoted target} exists but is not a directory"
            pure none
        | .error _ =>
          let like : Except SystemFault DiskNode := do
            let node ← d.get start
            if isDirectoryNode node then .ok node else .error .notDirectory
          match like with
          | .error fault => do
            complain s.name s!"failed to get attributes of {shellQuoted start}: {fault.text}"
            pure none
          | .ok node =>
            match ← edit (Disk.makeDirectory · target node.mode) with
            | .ok () => do
              if s.isVerbose then say s.name (start ++ " -> " ++ target ++ "\n")
              pure (some ((target, node) :: found))
            | .error fault => do
              complain s.name s!"cannot make directory {shellQuoted target}: {fault.text}"
              pure none
  starts.foldlM step (some [])

end CopyStyle

/-- Copies files. -/
def cp : Tool := fun name args => do
  let (options, operands) ← readOptions name copyRules false 1 args
  let style ← options.foldlM CopyStyle.take ({ name } : CopyStyle)
  let directory? ← targetDirectory? name options
  let style ← style.complete options
  let (sources, destination) ← destination name directory? (has options "no-target-directory") operands
  let sources := if has options "strip-trailing-slashes" then sources.map trimmed else sources
  match destination, has options "parents" with
  | .to _, true => failWithHelp name "with --parents, the destination must be a directory" 1
  | .within directory, true =>
    eachOf sources fun source => do
      let path := trimmed source
      match ← style.makeParents directory path with
      | none => pure 1
      | some made =>
        let (isDone, _) ← (style.copyOperand source (joinedPath directory path)).run ⟨false, [], [], []⟩
        for (target, node) in made do style.keepAttributes node true target
        pure (if isDone then 0 else 1)
  | .to target, false =>
    let source := sources.headD ""
    let d ← disk
    match style.backup? with
    | some backup =>
      let isFile := match d.get target with
        | .ok node => !isDirectoryNode node
        | .error _ => false
      if style.isForced && source == target && isFile then
        forEachSource sources (.to (backup.pathFor d target)) { style with backup? := none }.copyOperand
      else forEachSource sources destination style.copyOperand
    | none => forEachSource sources destination style.copyOperand
  | destination, false => forEachSource sources destination style.copyOperand

end Rebuild.Tool
