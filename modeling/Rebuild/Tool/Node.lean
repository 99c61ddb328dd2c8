import Rebuild.Tool.Paths

/-!
# What is told of nodes

What a path names, and the kind, the size and the permissions of a node, as programs write them.
-/

namespace Rebuild.Tool

open Text

/-! ## Paths and nodes -/

/-- The path of a name in a directory. -/
def inDirectory (directory name : String) : String :=
  if directory.endsWith "/" then directory ++ name
  else directory ++ "/" ++ name

/-- Whether a node is a directory. -/
def isDirectoryNode (n : DiskNode) : Bool :=
  match n.item with
  | .directory => true
  | _ => false

/-- Whether a node is a symbolic link. -/
def isLinkNode (n : DiskNode) : Bool :=
  match n.item with
  | .link _ => true
  | _ => false

/-- What a name stands for; a symbolic link is followed or not. -/
def nodeOf (d : Disk) (follows : Bool) (path : String) : Except SystemFault DiskNode :=
  if follows then d.get path else d.getName path

/-- The number of the node at a path; a symbolic link is followed or not. -/
def numberOf? (d : Disk) (follows : Bool) (path : String) : Option Nat :=
  (d.locate follows path).toOption.bind d.number?

/-- Whether two paths are those of one name. -/
def isOneName (d : Disk) (a b : String) : Bool :=
  match d.findName (Disk.withoutSlashes a), d.findName (Disk.withoutSlashes b) with
  | .ok a, .ok b => a == b
  | _, _ => false

/-- How deep directories are read at most. -/
def maxDepth : Nat := 200

/-! ## What is told -/

/-- The letter of the kind of a node. -/
def kindLetter (n : DiskNode) : Char :=
  match n.item with
  | .file _ | .program _ => '-'
  | .directory => 'd'
  | .link _ => 'l'
  | .device _ => 'c'

/-- The name of the kind of a node. -/
def kindName (n : DiskNode) : String :=
  match n.item with
  | .file content => if content.isEmpty then "regular empty file" else "regular file"
  | .program _ => "regular file"
  | .directory => "directory"
  | .link _ => "symbolic link"
  | .device _ => "character special file"

/-- The size of a node in bytes. -/
def sizeOf (n : DiskNode) : Nat :=
  match n.item with
  | .file content => content.size
  | .directory => 4096
  | .link target => byteLength target
  | .program _ | .device _ => 0

/-- How much of the disk a node takes, in units of 1024 bytes. -/
def blocksOf (n : DiskNode) : Nat :=
  match n.item with
  | .file content => (content.size + 4095) / 4096 * 4
  | .directory => 4
  | _ => 0

/-- The kind and the permissions of a node as letters. -/
def modeText (n : DiskNode) : String :=
  let has (bit : Nat) : Bool := n.mode &&& bit != 0
  let execute (bit special : Nat) (both alone : Char) : Char :=
    if has special then (if has bit then both else alone) else if has bit then 'x' else '-'
  let letter (bit : Nat) (c : Char) : Char := if has bit then c else '-'
  String.ofList [kindLetter n,
    letter 0o400 'r', letter 0o200 'w', execute 0o100 0o4000 's' 'S',
    letter 0o040 'r', letter 0o020 'w', execute 0o010 0o2000 's' 'S',
    letter 0o004 'r', letter 0o002 'w', execute 0o001 0o1000 't' 'T']

/-- How many links a node has; a directory has one from itself and each directory in it. -/
def linkCount (d : Disk) (place : Place) (n : DiskNode) : Nat :=
  match n.item with
  | .directory =>
    2 + ((d.names place).filter fun name => (d.at? (place ++ [name])).any isDirectoryNode).length
  | _ => ((d.number? place).map d.nameCount).getD 1

/-- A size in units of 1024 or 1000, rounded up. -/
def shortSize (base size : Nat) : String :=
  scaled 9 ["", if base == 1000 then "k" else "K", "M", "G", "T", "P"] size 1
where
  /-- The size in the first unit in which it is small enough. -/
  scaled (limit : Nat) (units : List String) (size unit : Nat) : String :=
    match limit, units with
    | limit + 1, name :: rest =>
      if size < base * unit || rest.isEmpty then
        let tenths := (size * 10 + unit - 1) / unit
        if name.isEmpty then toString size
        else if tenths < 100 then s!"{tenths / 10}.{tenths % 10}{name}"
        else s!"{(size + unit - 1) / unit}{name}"
      else scaled limit rest size (unit * base)
    | _, _ => toString size

end Rebuild.Tool
