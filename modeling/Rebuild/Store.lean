import Std.Data.ExtTreeMap
import Rebuild.FileView
import Rebuild.Path

/-!
# Files with a clock

A store holds files under paths in normal form. Its clock ticks at every write, so a write is later than all that came
before it; setting a time moves the clock up to that time at least. The basic facts say what each operation does to the
file at a path (`get?_write`, `get?_stamp`, `get?_remove`) and to the clock.
-/

namespace Rebuild

/-- The bytes of a file and the time of its last modification. -/
structure File where
  content : ByteArray
  modified : Time

/-- The latest time given so far, and the files by the normal form of their paths. -/
@[ext] structure Store where
  clock : Time
  files : Std.ExtTreeMap String File

namespace Store

/-- No files, at time zero. -/
def empty : Store := ⟨0, ∅⟩

/-- The file at a path. -/
def get? (s : Store) (path : String) : Option File :=
  s.files[Path.normal path]?

/-- The bytes of the file at a path. -/
def content? (s : Store) (path : String) : Option ByteArray :=
  (s.get? path).map File.content

/-- The time of the file at a path. -/
def modified? (s : Store) (path : String) : Option Time :=
  (s.get? path).map File.modified

/-! ## Operations -/

/-- Puts a file at a path, at the next tick of the clock. -/
def write (s : Store) (path : String) (content : ByteArray) : Store :=
  ⟨s.clock + 1, s.files.insert (Path.normal path) ⟨content, s.clock + 1⟩⟩

/-- Sets the time of the file at a path, if there is one. -/
def stamp (s : Store) (path : String) (time : Time) : Store :=
  ⟨max s.clock time,
    match s.get? path with
    | none => s.files
    | some file => s.files.insert (Path.normal path) { file with modified := time }⟩

/-- Removes the file at a path. -/
def remove (s : Store) (path : String) : Store :=
  ⟨s.clock, s.files.erase (Path.normal path)⟩

/-- An operation on a store. -/
inductive Edit where
  | write (path : String) (content : ByteArray)
  | stamp (path : String) (time : Time)
  | remove (path : String)

/-- The store after an operation. -/
def apply (s : Store) : Edit → Store
  | .write path content => s.write path content
  | .stamp path time => s.stamp path time
  | .remove path => s.remove path

/-- The store after operations, in order. -/
def applyAll (s : Store) (edits : List Edit) : Store :=
  edits.foldl apply s

/-! ## The file at a path after an operation -/

@[simp] theorem get?_empty (path : String) : empty.get? path = none := by
  simp [get?, empty]

theorem get?_write (s : Store) (path : String) (content : ByteArray) (p : String) :
    (s.write path content).get? p =
      if Path.normal path = Path.normal p then some ⟨content, s.clock + 1⟩ else s.get? p := by
  simp [get?, write, Std.ExtTreeMap.getElem?_insert]

theorem get?_stamp (s : Store) (path : String) (time : Time) (p : String) :
    (s.stamp path time).get? p =
      if Path.normal path = Path.normal p then (s.get? p).map ({ · with modified := time }) else s.get? p := by
  unfold stamp
  split
  · next h =>
    split
    · next e => simp only [get?, e] at h ⊢; simp [h]
    · rfl
  · next file h =>
    by_cases e : Path.normal path = Path.normal p
    · simp only [get?, e] at h ⊢
      simp [h]
    · simp [get?, Std.ExtTreeMap.getElem?_insert, e]

theorem get?_remove (s : Store) (path : String) (p : String) :
    (s.remove path).get? p = if Path.normal path = Path.normal p then none else s.get? p := by
  simp [get?, remove, Std.ExtTreeMap.getElem?_erase]

/-! ## The view of a build -/

/-- The text of the file at a path. -/
def readText (s : Store) (path : String) : Except FileFault String :=
  match s.content? path with
  | none => .error (.absent path)
  | some content =>
    match String.fromUTF8? content with
    | some text => .ok text
    | none => .error (.notText ((Text.Utf8.fault? content).getD ⟨0, none⟩))

instance : FileView Store where
  isThere s path := (s.get? path).isSome
  modified s path := .ok (s.modified? path)
  readText := readText

end Store

end Rebuild
