import Rebuild.Tool.Copying.Place

/-!
# Linking

`ln` makes other names of files, or symbolic links to them, each within a directory if the last operand is one; `link`
makes one name. What is there already is replaced if that is asked for.
-/

namespace Rebuild.Tool

open Text

/-- How links are made. -/
structure LinkStyle where
  name : String
  isSymbolic : Bool := false
  /-- Whether a symbolic link that is the source is followed. -/
  follows : Bool := false
  /-- Whether symbolic links hold paths from where they are. -/
  isRelative : Bool := false
  /-- Whether what is there is replaced. -/
  replaces : Bool := false
  asks : Bool := false
  backup? : Option BackupStyle := none
  isVerbose : Bool := false
  /-- Whether names that were made are not replaced. -/
  isTracking : Bool := false

namespace LinkStyle

/-- How links are made by options. -/
def ofOptions (name : String) (options : List Given) : LinkStyle where
  name
  isSymbolic := has options "symbolic"
  follows := (options.map Prod.fst).reverse.find? ["logical", "physical"].contains == some "logical"
  isRelative := has options "relative"
  replaces := (options.map Prod.fst).reverse.find? ["force", "interactive"].contains == some "force"
  asks := (options.map Prod.fst).reverse.find? ["force", "interactive"].contains == some "interactive"
  isVerbose := has options "verbose"

/-- A disk with a link at a path. -/
def make (s : LinkStyle) (source target : String) (d : Disk) : Except SystemFault Disk := do
  if s.isSymbolic then
    if source.isEmpty then throw .noEntry
    d.makeLink target source
  else d.linkTo (← d.locate s.follows source) target

/-- What a symbolic link at a path holds. -/
def heldPath (s : LinkStyle) (d : Disk) (source target : String) : String :=
  if s.isRelative then
    match placeOfPath d .nothing (directoryName target), placeOfPath d .nothing source with
    | .ok start, .ok place => pathBetween start place
    | _, _ => source
  else source

/-- Complains, and goes on with the rest. -/
def refuse (s : LinkStyle) (text : String) : ToolM Bool := do
  complain s.name text
  pure false

/-- Complains of a link that could not be made. -/
def refuseLink (s : LinkStyle) (source target : String) (fault : SystemFault) : ToolM Bool :=
  let wording :=
    if s.isSymbolic then
      s!"failed to create symbolic link {shellQuoted target}" ++
        (if source.isEmpty || fault == .nameTooLong then s!" -> {shellQuoted source}" else "")
    else
      s!"failed to create hard link {shellQuoted target}" ++
        (if fault == .exists || fault == .noSpace then "" else s!" => {shellQuoted source}")
  s.refuse (wording ++ ": " ++ fault.text)

/-- Whether what is at a path is what would be linked there, so that it cannot be replaced. -/
def isSame (s : LinkStyle) (d : Disk) (source target : String) : Bool :=
  let number := numberOf? d (s.isSymbolic || s.follows) source
  (if s.replaces then s.backup?.isNone || !s.isSymbolic else s.backup?.isSome && !s.isSymbolic) &&
    number.isSome && number == numberOf? d false target &&
    (number.any (fun n => d.nameCount n ≤ 1) || isOneName d source target)

/-- Asks whether what is at a path is to be replaced, if questions are asked. -/
def agrees (s : LinkStyle) (target : String) : ToolM Bool :=
  if s.asks then confirm s!"{s.name}: replace {shellQuoted target}? " else pure true

/-- Makes room for a link where something is. Whether the link is made then is told, and the path of the backup. -/
def makeRoom (s : LinkStyle) (memory : List (Place × Nat)) (source target : String) (there : DiskNode) :
    ToolM (Except Bool (Option String)) := do
  let d ← disk
  if isDirectoryNode there then
    pure (.error (← s.refuse s!"{shellQuotedIfNeeded target}: cannot overwrite directory"))
  else if (nameOf? d false target).any memory.contains then
    pure (.error (← s.refuse s!"will not overwrite just-created {shellQuoted target} with {shellQuoted source}"))
  else if s.isSame d source target then
    pure (.error (← s.refuse s!"{shellQuoted source} and {shellQuoted target} are the same file"))
  else if !(← s.agrees target) then pure (.error true)
  else
    match s.backup? with
    | none => pure (.ok none)
    | some style =>
      let path := style.pathFor d target
      match ← edit (Disk.rename · false target path) with
      | .ok () => pure (.ok (some path))
      | .error fault => pure (.error (← s.refuse s!"cannot backup {shellQuoted target}: {fault.text}"))

/-- Replaces what is at a path by a link, unless it got another name before. What leads to the same file is left. -/
def replace (s : LinkStyle) (source target : String) (backup? : Option String) : ToolM (Except SystemFault Unit) :=
  edit fun d =>
    match s.make source target d with
    | .error .exists =>
      if backup?.isSome then .error .exists
      else if !s.isSymbolic && numberOf? d s.follows source == numberOf? d false target then .ok d
      else do s.make source target (← d.unlink target)
    | result => result

/-- Makes a link; the attempt may have been made. What is remembered of names that were made is told. -/
def linkTo (s : LinkStyle) (attempt? : Option (Except SystemFault Unit)) (memory : List (Place × Nat))
    (source target : String) : ToolM (Bool × List (Place × Nat)) := do
  let first ← match attempt? with
    | some attempt => pure attempt
    | none => if s.isRelative then pure (.error .exists) else edit (s.make source target)
  let d ← disk
  let node := nodeOf d s.follows source
  match first, node with
  | .ok (), _ => succeed source none
  | .error fault, node =>
    if !s.isSymbolic && node.toOption.isNone then
      let fault := match node with
        | .error fault => fault
        | .ok _ => fault
      pure (← s.refuse s!"failed to access {shellQuoted source}: {fault.text}", memory)
    else if !s.isSymbolic && node.toOption.any isDirectoryNode then
      pure (← s.refuse s!"{shellQuotedIfNeeded source}: hard link not allowed for directory", memory)
    else
      let held := s.heldPath d source target
      let replaces := s.replaces || s.asks || s.backup?.isSome
      match replaces, d.getName target with
      | true, .ok there =>
        match ← s.makeRoom memory held target there with
        | .error isGood => pure (isGood, memory)
        | .ok backup? =>
          match ← s.replace held target backup? with
          | .ok () => succeed held backup?
          | .error fault => do
            let isGood ← s.refuseLink held target fault
            match backup? with
            | some path =>
              if let .error fault ← edit (Disk.rename · false path target) then
                complain s.name s!"cannot un-backup {shellQuoted target}: {fault.text}"
            | none => pure ()
            pure (isGood, memory)
      | true, .error .noEntry | false, _ =>
        let again ← if s.isRelative then edit (s.make held target) else pure (.error fault)
        match again with
        | .ok () => succeed held none
        | .error fault => pure (← s.refuseLink held target fault, memory)
      | true, .error fault => pure (← s.refuse s!"failed to access {shellQuoted target}: {fault.text}", memory)
where
  /-- Tells of a link that was made, and remembers it. -/
  succeed (held : String) (backup? : Option String) : ToolM (Bool × List (Place × Nat)) := do
    if s.isVerbose then
      say s.name (((backup?.map fun path => shellQuoted path ++ " ~ ").getD "") ++ shellQuoted target ++
        (if s.isSymbolic then " -> " else " => ") ++ shellQuoted held ++ "\n")
    let d ← disk
    pure (true, if s.isTracking then (nameOf? d false target).toList ++ memory else memory)

/-- Makes links in a directory. -/
def linkWithin (s : LinkStyle) (directory : String) (sources : List String) : ToolM Nat := do
  let isTracking := 2 ≤ sources.length && s.replaces && !s.isSymbolic && !s.backup?.any (·.kind == .numbered)
  let step (state : Nat × List (Place × Nat)) (source : String) : ToolM (Nat × List (Place × Nat)) := do
    let (isGood, memory) ← linkTo { s with isTracking } none state.2 source (joinedPath directory (lastName source))
    pure (if isGood then state.1 else 1, memory)
  let (code, _) ← sources.foldlM step (0, [])
  pure code

end LinkStyle

/-- The options of links. -/
def linkRules : List OptionRule :=
  [⟨"b", "", .none⟩, ⟨"", "backup", .optional⟩, ⟨"dF", "directory", .none⟩, ⟨"n", "no-dereference", .none⟩,
   ⟨"f", "force", .none⟩, ⟨"i", "interactive", .none⟩, ⟨"S", "suffix", .required⟩,
   ⟨"t", "target-directory", .required⟩, ⟨"T", "no-target-directory", .none⟩, ⟨"L", "logical", .none⟩,
   ⟨"P", "physical", .none⟩, ⟨"r", "relative", .none⟩, ⟨"s", "symbolic", .none⟩, ⟨"v", "verbose", .none⟩]

/-- The directory that options name to be the target, which has to be there. -/
def linkDirectory? (name : String) (options : List Given) : ToolM (Option String) := do
  match ← targetDirectory? name options with
  | none => pure none
  | some directory =>
    match (← disk).get directory with
    | .error fault => fail name s!"failed to access {shellQuoted directory}: {fault.text}" 1
    | .ok node =>
      if isDirectoryNode node then pure (some directory)
      else fail name s!"target {shellQuoted directory} is not a directory" 1

/-- Makes links. With two operands the link is tried before it is looked whether the last is a directory. -/
def ln : Tool := fun name args => do
  let (options, operands) ← readOptions name linkRules false 1 args
  let directory? ← linkDirectory? name options
  let isPlain := has options "no-target-directory"
  let style := LinkStyle.ofOptions name options
  if operands.isEmpty then failWithHelp name "missing file operand" 1
  if style.isRelative && !style.isSymbolic then fail name "cannot do --relative without --symbolic" 1
  if isPlain then
    if directory?.isSome then fail name "cannot combine --target-directory and --no-target-directory" 1
    match operands with
    | [operand] => failWithHelp name s!"missing destination file operand after {shellQuoted operand}" 1
    | _ :: _ :: extra :: _ => failWithHelp name s!"extra operand {shellQuoted extra}" 1
    | _ => pure ()
  let attempt? : Option (Except SystemFault Unit) ← match directory?, isPlain, operands with
    | none, false, [source, target] =>
      if style.isRelative then pure none
      else do pure (some (← edit (style.make source target)))
    | _, _, _ => pure none
  let last := operands.getLast?.getD ""
  let looksThere := directory?.isNone && !isPlain && 2 ≤ operands.length &&
    (match attempt? with
      | none | some (.error .exists) | some (.error .notDirectory) | some (.error .invalid) => true
      | some _ => false)
  let found := nodeOf (← disk) (!has options "no-dereference") last
  let isDirectory := looksThere && found.toOption.any isDirectoryNode
  if looksThere && !isDirectory && 2 < operands.length then
    let fault := match found with
      | .ok _ => SystemFault.notDirectory
      | .error fault => fault
    fail name s!"target {shellQuoted last}: {fault.text}" 1
  let backup? ← BackupStyle.ofOptions? name options
  let style := { style with backup? }
  match directory?, isDirectory, isPlain, operands with
  | some directory, _, _, sources => style.linkWithin directory sources
  | none, true, _, operands => style.linkWithin last operands.dropLast
  | none, false, false, [source] => style.linkWithin "." [source]
  | none, false, _, operands => do
    let (isGood, _) ← style.linkTo attempt? [] (operands.headD "") last
    pure (if isGood then 0 else 1)

/-- Gives a file another name. -/
def link : Tool := fun name args => do
  let (_, operands) ← readOptions name [] false 1 args
  match operands with
  | [] => failWithHelp name "missing operand" 1
  | [only] => failWithHelp name s!"missing operand after {plainlyQuoted only}" 1
  | _ :: _ :: extra :: _ => failWithHelp name s!"extra operand {plainlyQuoted extra}" 1
  | [source, target] =>
    match ← edit fun d => do d.linkTo (← d.findName source) target with
    | .ok () => pure 0
    | .error fault =>
      fail name s!"cannot create link {shellQuoted target} to {shellQuoted source}: {fault.text}" 1

end Rebuild.Tool
