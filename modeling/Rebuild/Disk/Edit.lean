import Rebuild.Disk.Basic

/-!
# Changes of a disk

What is written gets a later time than everything before, and so does a directory in which a name appears or
disappears. A name is removed without the node it leads to: other names of that node, and files that are open, go on
leading there.
-/

namespace Rebuild.Disk

/-! ## Nodes -/

/-- Changes a node. -/
def alter (d : Disk) (number : Nat) (f : DiskNode → DiskNode) : Disk :=
  match d.nodes[number]? with
  | some node => { d with nodes := d.nodes.insert number (f node) }
  | none => d

/-- A disk at a later time. -/
def tick (d : Disk) : Disk :=
  { d with clock := d.clock + 1 }

/-- Gives a node the time of the disk. -/
def refresh (d : Disk) (number : Nat) : Disk :=
  d.alter number fun node => { node with modified := d.clock }

/-- Gives the directory that a place is in the time of the disk. -/
def refreshParent (d : Disk) (place : Place) : Disk :=
  match d.number? place.dropLast with
  | some number => d.refresh number
  | none => d

/-- Gives a file new bytes. -/
def setContent (d : Disk) (number : Nat) (content : ByteArray) : Disk :=
  let d := d.tick
  d.alter number fun node =>
    match node.item with
    | .file _ => { node with item := .file content, modified := d.clock }
    | _ => node

/-- Lets one more name lead to a node. -/
def addName (d : Disk) (place : Place) (number : Nat) : Disk :=
  let d := d.tick
  ({ d with numbers := d.numbers.insert (pathOf place) number } : Disk).refreshParent place

/-- Puts a new node at a place. -/
def put (d : Disk) (place : Place) (item : DiskItem) (mode : Nat) : Disk :=
  let number := d.next
  let d := d.addName place number
  { d with nodes := d.nodes.insert number ⟨item, mode, d.clock⟩, next := number + 1 }

/-- The permissions that the mask leaves of others. -/
def masked (d : Disk) (mode : Nat) : Nat :=
  mode &&& (0o7777 ^^^ d.mask)

/-! ## Ends of paths -/

/-- A path without slashes at its end. -/
def withoutSlashes (path : String) : String :=
  (path.dropEndWhile '/').toString

/-- Whether a path ends with what is no name: with a dot or two, or nowhere but at the root. -/
def endsInNoName (path : String) : Bool :=
  let last := (withoutSlashes path).toList.reverse.takeWhile (· != '/')
  (last.isEmpty && !path.isEmpty) || last == ['.'] || last == ['.', '.']

/-- The place of the name at the end of a path, which nothing may have yet. Slashes may follow that of a directory. -/
def newPlace (d : Disk) (isDirectory : Bool) (path : String) : Except SystemFault Place := do
  if endsInNoName path then
    let _ ← d.find path
    throw .exists
  let place ← d.findName (withoutSlashes path)
  if (d.at? place).isSome then throw .exists
  if path.endsWith "/" && !isDirectory then throw .noEntry
  d.enter place.dropLast
  pure place

/-! ## Files -/

/-- The number of the file at the end of a path, which is made if it is not there. A path that ends with a slash can
only be that of a directory. -/
def openToWrite (d : Disk) (path : String) (mode : Nat) : Except SystemFault (Nat × Disk) := do
  if path.endsWith "/" then
    d.enter (← d.findName (path.dropEndWhile '/').toString).dropLast
    throw .isDirectory
  let place ← d.find path
  match d.number? place, d.at? place with
  | some _, some ⟨.directory, _, _⟩ => .error .isDirectory
  | some number, some _ => .ok (number, d)
  | _, _ =>
    d.enter place.dropLast
    .ok (d.next, d.put place (.file .empty) (d.masked mode))

/-- Writes a file at the end of a path. -/
def write (d : Disk) (path : String) (content : ByteArray) : Except SystemFault Disk :=
  (d.openToWrite path 0o666).map fun (number, d) => d.setContent number content

/-- Makes a directory at the end of a path. -/
def makeDirectory (d : Disk) (path : String) (mode : Nat) : Except SystemFault Disk := do
  pure (d.put (← d.newPlace true path) .directory (d.masked mode))

/-- Makes the directories that a path leads through and ends at, as far as they are not there. -/
def makeDirectories (d : Disk) (path : String) : Except SystemFault Disk :=
  let start := if Path.isAbsolute path then "/" else "."
  let step (state : String × Disk) (c : String) : Except SystemFault (String × Disk) :=
    let here := Path.join state.1 c
    if state.2.isDirectory here then .ok (here, state.2)
    else if state.2.isThere here then .error .notDirectory
    else (state.2.makeDirectory here 0o777).map (here, ·)
  ((Path.components path).foldlM step (start, d)).map Prod.snd

/-- Makes a symbolic link at the end of a path. -/
def makeLink (d : Disk) (path target : String) : Except SystemFault Disk := do
  pure (d.put (← d.newPlace false path) (.link target) 0o777)

/-- Gives the node at a place another name. -/
def linkTo (d : Disk) (source : Place) (path : String) : Except SystemFault Disk := do
  let node ← d.nodeAt source
  let place ← d.newPlace false path
  match node.item, d.number? source with
  | .directory, _ => .error .notPermitted
  | _, some number => .ok (d.addName place number)
  | _, none => .error .noEntry

/-! ## Names -/

/-- Whether a path is that of something below a place. -/
def isBelow (place : Place) (path : String) : Bool :=
  path.startsWith (pathOf place ++ "/")

/-- Removes the name at a place, and those below it. -/
def removeAll (d : Disk) (place : Place) : Disk :=
  let d := d.tick
  ({ d with numbers := (d.numbers.erase (pathOf place)).filter fun path _ => !isBelow place path } : Disk).refreshParent
    place

/-- Gives what is at a place, and below it, another place. What was there before is gone. -/
def move (d : Disk) (source target : Place) : Disk :=
  let old := pathOf source
  let moved := d.numbers.toList.filterMap fun (path, number) =>
    if path == old then some (pathOf target, number)
    else if isBelow source path then some (pathOf target ++ (path.drop old.length).toString, number)
    else none
  let d := (d.removeAll target).removeAll source
  ({ d with numbers := d.numbers.insertMany moved } : Disk).refreshParent target

/-- Gives what a path names another name. What has the other name is gone, if it may be replaced: a file by a file, and
a directory in which nothing is by a directory. If the name has to be new, nothing may have it. -/
def rename (d : Disk) (isNew : Bool) (source target : String) : Except SystemFault Disk := do
  let old ← if endsInNoName source then d.find source else d.findName (withoutSlashes source)
  let new ← if endsInNoName target then d.find target else d.findName (withoutSlashes target)
  if endsInNoName source then throw .busy
  if endsInNoName target then throw (if isNew then .exists else .busy)
  let node ← d.nodeAt old
  let isDirectory := match node.item with
    | .directory => true
    | _ => false
  d.enter new.dropLast
  if isNew && (d.at? new).isSome then .error .exists
  else if !isDirectory && (source.endsWith "/" || target.endsWith "/") then .error .notDirectory
  else if isBelow old (pathOf new) then .error .invalid
  else if isBelow new (pathOf old) then .error .notEmpty
  else
    match d.at? new with
    | none => .ok (d.move old new)
    | some there =>
      if d.number? old == d.number? new then .ok d
      else
        match there.item, isDirectory with
        | .directory, false => .error .isDirectory
        | .directory, true => if (d.names new).isEmpty then .ok (d.move old new) else .error .notEmpty
        | _, true => .error .notDirectory
        | _, false => .ok (d.move old new)

/-- Removes the name at the end of a path, which is not that of a directory. -/
def unlink (d : Disk) (path : String) : Except SystemFault Disk := do
  if endsInNoName path then
    let _ ← d.find path
    throw .isDirectory
  let place ← d.findName (withoutSlashes path)
  match (← d.nodeAt place).item with
  | .directory => .error .isDirectory
  | _ => if path.endsWith "/" then .error .notDirectory else .ok (d.removeAll place)

/-- Removes the empty directory at the end of a path. -/
def removeDirectory (d : Disk) (path : String) : Except SystemFault Disk := do
  if endsInNoName path then
    let _ ← d.find path
    let short := withoutSlashes path
    throw (if short.isEmpty then .busy else if short == "." || short.endsWith "/." then .invalid else .notEmpty)
  let place ← d.findName (withoutSlashes path)
  match (← d.nodeAt place).item with
  | .directory => if (d.names place).isEmpty then .ok (d.removeAll place) else .error .notEmpty
  | _ => .error .notDirectory

/-! ## Times and permissions -/

/-- Sets the time of what is at the end of a path, or of the symbolic link there if that is not followed. -/
def stamp (d : Disk) (follows : Bool) (path : String) (time : Time) : Except SystemFault Disk := do
  let place ← d.locate follows path
  match d.number? place with
  | some number => .ok (d.alter number fun node => { node with modified := time })
  | none => .error .noEntry

/-- Sets the permissions of what is at the end of a path. -/
def permit (d : Disk) (path : String) (mode : Nat) : Except SystemFault Disk := do
  let place ← d.find path
  match d.number? place with
  | some number => .ok (d.alter number fun node => { node with mode })
  | none => .error .noEntry

/-! ## Disks -/

/-- A disk with nothing but its root, at a time. -/
def root (clock : Time) : Disk where
  clock := clock
  cwd := []
  mask := 0o022
  numbers := (∅ : Std.TreeMap String Nat).insert "/" 0
  nodes := (∅ : Std.TreeMap Nat DiskNode).insert 0 ⟨.directory, 0o755, clock⟩
  next := 1

/-- Puts items at absolute paths, all of the same time. -/
def install (d : Disk) (items : List (String × DiskItem × Nat)) : Disk :=
  items.foldl (fun d (path, item, mode) =>
    { d with
      numbers := d.numbers.insert path d.next
      nodes := d.nodes.insert d.next ⟨item, mode, d.clock⟩
      next := d.next + 1 }) d

/-- The devices, by their paths. -/
def devices : List (String × DiskItem × Nat) :=
  [("/dev", .directory, 0o755), ("/dev/null", .device .null, 0o666), ("/dev/full", .device .full, 0o666),
   ("/dev/zero", .device (.endless false), 0o666), ("/dev/random", .device (.endless true), 0o666),
   ("/dev/urandom", .device (.endless true), 0o666),
   ("/dev/stdin", .device (.stream 0), 0o666), ("/dev/stdout", .device (.stream 1), 0o666),
   ("/dev/stderr", .device (.stream 2), 0o666)]

/-- A disk with the usual directories, the devices and the given programs, and an empty working directory. -/
def empty (clock : Time) (programs : List String) (cwd : Place) : Disk :=
  let directories := ["/etc", "/home", "/root", "/tmp", "/usr", "/usr/bin", "/var"].map (·, DiskItem.directory, 0o755)
  let links := [("/bin", DiskItem.link "usr/bin", 0o777)]
  let programs := programs.map fun name => ("/usr/bin/" ++ name, DiskItem.program name, 0o755)
  let above := (List.range cwd.length).map fun n => (pathOf (cwd.take (n + 1)), DiskItem.directory, 0o755)
  { (root clock).install (directories ++ links ++ devices ++ programs ++ above) with cwd }

end Rebuild.Disk
