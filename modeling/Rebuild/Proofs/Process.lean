import Rebuild.Process
import Rebuild.Proofs.Disk.Refill

/-!
# Files that processes open

A process reads a file to its end (`Process.takeFile_eq`), and what it writes to a file that it has just opened to be
written is all that this holds then (`Process.openPath_write`, `Process.writeFile_node`). Nothing of the process changes
but its disk and its open files (`Process.changed`).
-/

namespace Rebuild

namespace Process

variable {p : Process} {path : String} {node : DiskNode} {content : ByteArray}

/-- A process with another disk and other open files. -/
def changed (p : Process) (disk : Disk) (files : Array OpenFile) : Process :=
  { p with disk, files }

/-! ## Reading -/

theorem openPath_read (hget : p.disk.get path = .ok node) (hfile : node.item = .file content) :
    ∃ number, p.disk.nodes[number]? = some node ∧
      p.openPath path .read 0 = .ok (p.openChannel (.node number) .read) := by
  obtain ⟨place, hplace, hat⟩ := Disk.get_eq_ok_iff.mp hget
  obtain ⟨number, hnumber, hnode⟩ := Option.bind_eq_some_iff.mp hat
  refine ⟨number, hnode, ?_⟩
  unfold openPath
  simp [hplace, hnumber, hnode, hfile, bind, Except.bind]

theorem content_node {number : Nat} (hnode : p.disk.nodes[number]? = some node) (hfile : node.item = .file content)
    (position : Nat) : p.content position (.node number) = .ok content := by
  unfold Process.content
  dsimp only
  rw [hnode]
  show Disk.contentOf node = _
  unfold Disk.contentOf
  rw [hfile]

/-- **A file is read to its end.** -/
theorem takeFile_eq (hget : p.disk.get path = .ok node) (hfile : node.item = .file content) :
    ∃ files, takeFile path p = (.ok content, p.changed p.disk files) := by
  obtain ⟨number, hnode, hopen⟩ := openPath_read hget hfile
  unfold takeFile
  rw [hopen]
  dsimp only [openChannel]
  rw [Array.getElem?_push_size]
  dsimp only
  rw [content_node (by exact hnode) hfile]
  exact ⟨_, Prod.ext (congrArg Except.ok ByteArray.extract_zero_size) rfl⟩

/-! ## Writing -/

/-- A file that is opened to be written anew has no bytes then. -/
theorem openPath_write {mode number : Nat} {opened : Disk} (hopen : p.disk.openToWrite path mode = .ok (number, opened))
    (hnode : opened.nodes[number]? = some node) (hfile : node.item = .file content) :
    p.openPath path .write mode = .ok (p.files.size,
      p.changed (opened.setContent number .empty) (p.files.push ⟨.node number, 0, false, true, false⟩)) := by
  unfold openPath
  simp [hopen, hnode, hfile, bind, Except.bind]
  rfl

theorem overwrite_empty (bytes : ByteArray) : overwrite .empty 0 bytes = bytes := by
  unfold overwrite
  ext1
  simp

/-- **Bytes that are written to a file without any are what it holds then**, if there is no limit for them. -/
theorem writeFile_node {index number : Nat} (hindex : p.files[index]? = some ⟨.node number, 0, false, true, false⟩)
    (hnode : p.disk.nodes[number]? = some node) (hfile : node.item = .file .empty) (hlimit : p.fileLimit? = none)
    (bytes : ByteArray) : ∃ files, writeFile index bytes p =
      (.ok (), p.changed (if bytes.isEmpty then p.disk else p.disk.setContent number bytes) files) := by
  unfold writeFile
  rw [hindex]
  dsimp only
  unfold writeNode
  dsimp only
  rw [content_node hnode hfile, hlimit]
  dsimp only
  by_cases hempty : bytes.isEmpty = true
  · exact ⟨p.files, by simp [hempty, changed]⟩
  · simp only [hempty, Bool.false_eq_true, if_false, overwrite_empty, Nat.lt_irrefl]
    exact ⟨_, rfl⟩

/-- What is written anew to the file at the end of a path. -/
theorem exists_of_openPath_write {mode number : Nat} {opened : Disk}
    (hopen : p.disk.openToWrite path mode = .ok (number, opened)) (hnode : opened.nodes[number]? = some node)
    (hfile : node.item = .file content) (hlimit : p.fileLimit? = none) (bytes : ByteArray) :
    ∃ index q files, p.openPath path .write mode = .ok (index, q) ∧
      writeFile index bytes q = (.ok (), p.changed (opened.refill number bytes) files) := by
  have hempty : (opened.setContent number .empty).nodes[number]? =
      some { node with item := .file .empty, modified := opened.clock + 1 } := by
    rw [Disk.getElem?_setContent hnode, Disk.withContent, hfile]
  obtain ⟨files, hwrite⟩ := writeFile_node
    (p := p.changed (opened.setContent number .empty) (p.files.push ⟨.node number, 0, false, true, false⟩))
    Array.getElem?_push_size hempty rfl hlimit bytes
  refine ⟨_, _, files, openPath_write hopen hnode hfile, hwrite.trans ?_⟩
  unfold Disk.refill
  split <;> rfl

end Process

end Rebuild
