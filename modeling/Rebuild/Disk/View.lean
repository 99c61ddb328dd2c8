import Rebuild.Disk.Basic

/-!
# A disk as a build sees it

Something is at a path if the path leads to it; a symbolic link that leads nowhere is nothing. A build knows characters,
a disk bytes.
-/

namespace Rebuild.Disk

/-- When what is at a path was last modified. -/
def modified (d : Disk) (path : String) : Except FileFault (Option Time) :=
  match d.get (Text.spelled path) with
  | .ok node => .ok (some node.modified)
  | .error .noEntry => .ok none
  | .error fault => .error (.unknownTime path fault)

/-- The text of the file at a path. -/
def readText (d : Disk) (path : String) : Except FileFault String :=
  match d.read (Text.spelled path) with
  | .error fault => .error (.unreadable path fault)
  | .ok content =>
    match String.fromUTF8? content with
    | some text => .ok text
    | none => .error (.unreadable path .notUtf8)

instance : FileView Disk where
  isThere d path := d.isThere (Text.spelled path)
  modified := modified
  readText := readText

end Rebuild.Disk
