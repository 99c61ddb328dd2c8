import Std.Data.TreeMap
import Rebuild.FileView
import Rebuild.Path
import Rebuild.Text.Bytes

/-!
# Files in directories

A disk gives names to nodes: files, directories, symbolic links, programs and devices, each with its permissions and its
time of modification. Several names may lead to one node. A path is followed component by component (`Disk.find`):
everything it passes through has to be a directory, and a symbolic link goes on with the path that it holds.
-/

namespace Rebuild

/-- What is written to it or read from it is not kept on the disk. -/
inductive Device where
  /-- It is always empty, and takes everything. -/
  | null
  /-- It takes nothing. -/
  | full
  /-- It has no end; its bytes are zeros or, if asked for, all kinds of bytes. -/
  | endless (isNoise : Bool)
  /-- The stream of the process with this number. -/
  | stream (number : Nat)
deriving DecidableEq, Repr

/-- What a node is. -/
inductive DiskItem where
  | file (content : ByteArray)
  | directory
  /-- A symbolic link to a path. -/
  | link (target : String)
  /-- A program of the system, whose content is of no interest. -/
  | program (name : String)
  | device (kind : Device)

/-- What names on a disk lead to. -/
structure DiskNode where
  item : DiskItem
  /-- The permissions: three octal digits for the owner, the group and the others, and one for the special bits. -/
  mode : Nat
  modified : Time

/-- Whether a node may be executed by somebody. -/
def DiskNode.isExecutable (n : DiskNode) : Bool :=
  n.mode &&& 0o111 != 0

/-- A place: the names of the directories down to it, and its own. -/
abbrev Place := List String

/-- Named nodes, the working directory, and the latest time given so far. -/
structure Disk where
  clock : Time
  cwd : Place
  /-- The permissions that a new file or directory does not get. -/
  mask : Nat
  /-- The number of the node at each absolute path. -/
  numbers : Std.TreeMap String Nat
  nodes : Std.TreeMap Nat DiskNode
  /-- The number of the next node. -/
  next : Nat

namespace Disk

/-! ## Places -/

/-- The absolute path of a place. -/
def pathOf (place : Place) : String :=
  "/" ++ "/".intercalate place

/-- The number of the node at a place. -/
def number? (d : Disk) (place : Place) : Option Nat :=
  d.numbers[pathOf place]?

/-- The node at a place. -/
def at? (d : Disk) (place : Place) : Option DiskNode :=
  (d.number? place).bind fun number => d.nodes[number]?

/-- The path that the symbolic link at a place holds, if one is there. -/
def linkAt? (d : Disk) (place : Place) : Option String :=
  match d.at? place with
  | some ⟨.link target, _, _⟩ => some target
  | _ => none

/-- Fails unless a directory is at a place. -/
def enter (d : Disk) (place : Place) : Except SystemFault Unit :=
  match d.at? place with
  | none => .error .noEntry
  | some ⟨.directory, _, _⟩ => .ok ()
  | some _ => .error .notDirectory

/-- The parts of a path between slashes. -/
def parts (path : String) : List String :=
  (path.toList.splitOnP (· == '/')).map String.ofList

/-- The place that components lead to from another, through at most so many symbolic links. What the last component
names need not be there; whether it is followed if it is a symbolic link is a parameter. -/
def follow (d : Disk) (followLast : Bool) (links : Nat) (place : Place) :
    List String → Except SystemFault Place
  | [] => .ok place
  | c :: cs =>
    match d.enter place with
    | .error fault => .error fault
    | .ok () =>
      if c.isEmpty || c == "." then d.follow followLast links place cs
      else if c == ".." then d.follow followLast links place.dropLast cs
      else if 255 < Text.byteLength c then .error .nameTooLong
      else
        match d.linkAt? (place ++ [c]) with
        | none => d.follow followLast links (place ++ [c]) cs
        | some target =>
          if cs.isEmpty && !followLast then .ok (place ++ [c])
          else
            match links with
            | 0 => .error .tooManyLinks
            | links + 1 => d.follow followLast links (if Path.isAbsolute target then [] else place) (parts target ++ cs)
termination_by components => (links, components.length)

/-- How many symbolic links a path may lead through. -/
def maxLinks : Nat := 40

/-- The place that a path leads to; a symbolic link at its end is followed or not. -/
def locate (d : Disk) (followLast : Bool) (path : String) : Except SystemFault Place :=
  if path.toList.contains '\x00' then .error .nulByte
  else if path.isEmpty then .error .noEntry
  else if 4095 < Text.byteLength path then .error .nameTooLong
  else d.follow followLast maxLinks (if Path.isAbsolute path then [] else d.cwd) (parts path)

/-- The place that a path leads to. -/
def find (d : Disk) (path : String) : Except SystemFault Place :=
  d.locate true path

/-- The place of the name at the end of a path, which may be that of a symbolic link. -/
def findName (d : Disk) (path : String) : Except SystemFault Place :=
  d.locate false path

/-- What is at a place, or a fault. -/
def nodeAt (d : Disk) (place : Place) : Except SystemFault DiskNode :=
  match d.at? place with
  | some node => .ok node
  | none => .error .noEntry

/-- What is at the end of a path, which has to be there. -/
def get (d : Disk) (path : String) : Except SystemFault DiskNode := do
  d.nodeAt (← d.find path)

/-- What the name at the end of a path stands for, which may be a symbolic link. -/
def getName (d : Disk) (path : String) : Except SystemFault DiskNode := do
  d.nodeAt (← d.findName path)

/-- Whether something is at the end of a path. -/
def isThere (d : Disk) (path : String) : Bool :=
  (d.get path).toOption.isSome

/-- Whether a directory is at the end of a path. -/
def isDirectory (d : Disk) (path : String) : Bool :=
  match d.get path with
  | .ok ⟨.directory, _, _⟩ => true
  | _ => false

/-- The bytes that a node holds. -/
def contentOf (n : DiskNode) : Except SystemFault ByteArray :=
  match n.item with
  | .file content => .ok content
  | .directory => .error .isDirectory
  | .link _ | .program _ | .device _ => .ok .empty

/-- The bytes of the file at the end of a path. -/
def read (d : Disk) (path : String) : Except SystemFault ByteArray := do
  contentOf (← d.get path)

/-- The names in a directory, in the order of their bytes. -/
def names (d : Disk) (place : Place) : List String :=
  let above := if place.isEmpty then "/" else pathOf place ++ "/"
  d.numbers.keys.filterMap fun path =>
    if path != "/" && path.startsWith above then
      let name := (path.drop above.length).toString
      if name.toList.contains '/' then none else some name
    else none

/-- How many names a node has. -/
def nameCount (d : Disk) (number : Nat) : Nat :=
  (d.numbers.values.filter (· == number)).length

end Disk

end Rebuild
