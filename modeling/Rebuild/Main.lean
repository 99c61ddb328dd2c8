import Rebuild.Machine
import Rebuild.Program

/-!
# Command line

The working directory is taken onto a disk with all that is below it, the program runs there, and what it changed is
written back.
-/

namespace Rebuild.CommandLine

/-- The time of modification that the system tells. -/
def timeOf (m : IO.FS.Metadata) : Time :=
  m.modified.sec.toNat * 1000000000 + m.modified.nsec.toNat

/-- The permissions of a file with these bytes: one that names its interpreter may be executed. -/
def modeOf (content : ByteArray) : Nat :=
  if (Machine.interpreter? content).isSome then 0o755 else 0o644

/-- Puts an item with a time onto a disk, whose own time it may not exceed. -/
def putItem (d : Disk) (place : Place) (item : DiskItem) (mode : Nat) (time : Time) : Disk :=
  { d with
    clock := max d.clock time
    numbers := d.numbers.insert (Disk.pathOf place) d.next
    nodes := d.nodes.insert d.next ⟨item, mode, time⟩
    next := d.next + 1 }

/-- Takes a directory onto a disk. -/
partial def load (d : Disk) (place : Place) : IO Disk := do
  let directory ← IO.FS.realPath (Disk.pathOf place)
  let mut d := d
  for entry in ← directory.readDir do
    let here := place ++ [entry.fileName]
    match ← entry.path.symlinkMetadata.toBaseIO with
    | .error _ => pure ()
    | .ok m =>
      match m.type with
      | .dir => d ← load (putItem d here .directory 0o755 (timeOf m)) here
      | .file =>
        let content ← IO.FS.readBinFile entry.path
        d := putItem d here (.file content) (modeOf content) (timeOf m)
      | .symlink =>
        let target ← IO.FS.realPath entry.path
        d := putItem d here (.link target.toString) 0o777 (timeOf m)
      | _ => pure ()
  return d

/-- Removes a file, a link or an empty directory. -/
def remove (path : String) (item : DiskItem) : IO Unit :=
  match item with
  | .directory => IO.FS.removeDir path
  | .file _ | .link _ => IO.FS.removeFile path
  | _ => pure ()

/-- The nodes of a disk by their paths. -/
def entries (d : Disk) : List (String × DiskNode) :=
  d.numbers.toList.filterMap fun (path, number) => d.nodes[number]?.map (path, ·)

/-- What a disk has that another has not or has with another time. -/
def changes (before after : Disk) : List (String × DiskNode) :=
  (entries after).filter fun (path, node) =>
    match before.numbers[path]?.bind fun number => before.nodes[number]? with
    | some old => old.modified != node.modified || old.mode != node.mode
    | none => true

/-- Writes a file with its permissions. -/
def writeFile (path : String) (content : ByteArray) (mode : Nat) : IO Unit := do
  IO.FS.writeBinFile path content
  let right (place : Nat) : IO.AccessRight :=
    ⟨(mode >>> (place + 2)) % 2 == 1, (mode >>> (place + 1)) % 2 == 1, (mode >>> place) % 2 == 1⟩
  IO.setAccessRights path ⟨right 6, right 3, right 0⟩

/-- Writes back how a disk differs from another, the files in the order in which they were written. -/
def store (before after : Disk) : IO Unit := do
  for (path, node) in (entries before).reverse do
    unless after.numbers.contains path do remove path node.item
  for (path, node) in changes before after do
    match node.item with
    | .directory => unless before.numbers.contains path do IO.FS.createDir path
    | _ => pure ()
  for (path, node) in (changes before after).mergeSort fun a b => a.2.modified ≤ b.2.modified do
    match node.item with
    | .file content => writeFile path content node.mode
    | .link target =>
      match after.read target with
      | .ok content => writeFile path content 0o644
      | .error _ => pure ()
    | _ => pure ()

/-- What is known of the environment. -/
def environment : IO (List (String × String)) := do
  let mut found : List (String × String) := []
  for name in ["HOME", "LANG", "PATH", "RULER_LOG", "TMPDIR", "TZ", "USER"] do
    match ← IO.getEnv name with
    | some value => found := found ++ [(name, value)]
    | none => pure ()
  return found

/-- Runs the program in the working directory, and tells its exit code. -/
def run (args : List String) : IO UInt32 := do
  let cwd := Path.components (← IO.currentDir).toString
  let before ← load (Disk.empty 0 Machine.programNames cwd) cwd
  let answer := Program.run (Disk.run (← environment)) args before
  store before answer.world
  IO.print answer.stdout
  IO.eprint answer.stderr
  return UInt32.ofNat answer.code

end Rebuild.CommandLine

/-- Builds what the arguments ask for, in the working directory. -/
def main (args : List String) : IO UInt32 :=
  Rebuild.CommandLine.run args
