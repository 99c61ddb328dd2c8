import Rebuild.Proofs.Disk.File

/-!
# Files that are written anew

A file is opened to be written and loses what it holds, and then it is given new bytes (`Disk.refill`). Afterwards a
file with these bytes is at its place, and no other place has changed but for the directory that a new file is in
(`Refilled`, `refilled_of_openToWrite`).
-/

namespace Rebuild.Disk

variable {d e : Disk} {place : Place} {node : DiskNode} {content : ByteArray} {number : Nat}

/-- The disk on which a file has new bytes: first none, and then these if there are any. -/
def refill (d : Disk) (number : Nat) (content : ByteArray) : Disk :=
  if content.isEmpty then d.setContent number .empty else (d.setContent number .empty).setContent number content

/-- Another disk has a file with these bytes at a place. If the place led to a node, it leads to the same one, and
otherwise to a new one; files at other places are those that were there. -/
structure Refilled (d e : Disk) (place : Place) (content : ByteArray) : Prop where
  grows : Grows d e
  opens : Opens d e
  number_here : ∃ number, e.number? place = some number ∧ (d.number? place = some number ∨ number = d.next)
  number_elsewhere : ∀ p, pathOf p ≠ pathOf place → e.number? p = d.number? p
  here : ∃ node, e.at? place = some node ∧ node.item = .file content
  elsewhere : ∀ p, pathOf p ≠ pathOf place → (∀ n, d.number? place = some n → d.number? p ≠ some n) →
    (∀ node, d.at? p = some node → ∃ old, node.item = .file old) → e.at? p = d.at? p

theorem Opens.refl (d : Disk) : Opens d d := ⟨fun _ => id, fun _ => rfl⟩

theorem Opens.trans {d d' d'' : Disk} (h : Opens d d') (h' : Opens d' d'') : Opens d d'' :=
  ⟨fun place hd => h'.enter place (h.enter place hd), fun place => (h'.link place).trans (h.link place)⟩

theorem getElem?_setContent (hnode : d.nodes[number]? = some node) :
    (d.setContent number content).nodes[number]? = some (withContent content (d.clock + 1) node) := by
  unfold setContent
  dsimp only
  rw [getElem?_alter]
  show Option.map _ d.nodes[number]? = _
  rw [hnode, Option.map_some, if_pos rfl]
  rfl

theorem number?_setContent (d : Disk) (number : Nat) (content : ByteArray) (p : Place) :
    (d.setContent number content).number? p = d.number? p := by
  unfold setContent number?
  rw [numbers_alter]
  rfl

/-- A file that is there is one with the bytes that it holds. -/
theorem refilled_self (hnode : d.at? place = some node) (hfile : node.item = .file content) :
    Refilled d d place content where
  grows := .refl d
  opens := .refl d
  number_here := by
    obtain ⟨number, hnumber, -⟩ := Option.bind_eq_some_iff.mp hnode
    exact ⟨number, hnumber, Or.inl hnumber⟩
  number_elsewhere _ _ := rfl
  here := ⟨node, hnode, hfile⟩
  elsewhere _ _ _ _ := rfl

/-- A file that is made has no bytes. -/
theorem refilled_put (hs : d.Sound) (hnone : d.at? place = none) (habove : d.enter place.dropLast = .ok ())
    (mode : Nat) : Refilled d (d.put place (.file .empty) mode) place .empty where
  grows := grows_put d place _ mode
  opens := opens_put hs hnone .empty mode
  number_here := ⟨d.next, by rw [number?_put, if_pos rfl], Or.inr rfl⟩
  number_elsewhere p hp := by rw [number?_put, if_neg hp]
  here := ⟨_, (at?_put hs hnone _ mode place).trans (if_pos rfl), rfl⟩
  elsewhere p hp _ hfile := by
    rw [at?_put hs hnone, if_neg hp]
    cases hat : d.at? p with
    | none => rfl
    | some node =>
      -- what is at the place is a file, and so not the directory that the new one is in
      have hparent : d.number? p ≠ d.number? place.dropLast := by
        intro he
        obtain ⟨old, hold⟩ := hfile node hat
        rw [enter_eq_ok_iff, itemAt?, at?, ← he, ← at?, hat] at habove
        exact absurd (hold.symm.trans (Option.some.inj habove)) (by simp)
      rw [Option.map_some, if_neg hparent]

/-- New bytes for the file at the place. -/
theorem Refilled.setContent {old : ByteArray} (hs : d.Sound) (h : Refilled d e place old)
    (hnumber : e.number? place = some number) (content : ByteArray) :
    Refilled d (e.setContent number content) place content where
  grows := h.grows.trans (grows_setContent e number content)
  opens := h.opens.trans (opens_setContent e number content)
  number_here := by
    rw [number?_setContent]
    exact h.number_here
  number_elsewhere p hp := by
    rw [number?_setContent]
    exact h.number_elsewhere p hp
  here := by
    obtain ⟨node, hnode, hfile⟩ := h.here
    refine ⟨withContent content (e.clock + 1) node, ?_, ?_⟩
    · rw [at?_setContent, hnode, Option.map_some, if_pos hnumber]
    · rw [withContent, hfile]
  elsewhere p hp hother hfile := by
    have hne : e.number? p ≠ some number := by
      rw [h.number_elsewhere p hp]
      obtain ⟨n, hn, hold | hnew⟩ := h.number_here
      · exact fun he => hother n hold (he.trans (hnumber.symm.trans hn))
      · -- a new node has a number that no name led to
        obtain rfl : number = d.next := (Option.some.inj (hnumber.symm.trans hn)).trans hnew
        exact hs.number?_ne_next
    rw [at?_setContent, h.elsewhere p hp hother hfile]
    cases d.at? p with
    | none => rfl
    | some node => rw [Option.map_some, if_neg hne]

/-- **A file that is opened to be written holds what is written to it**, and nothing else changes. -/
theorem refilled_of_openToWrite {path : String} {mode : Nat} {opened : Disk} (hs : d.Sound)
    (hopen : d.openToWrite path mode = .ok (number, opened)) (hplace : d.find path = .ok place)
    (hfile : ∀ node, d.at? place = some node → ∃ old, node.item = .file old) (content : ByteArray) :
    Refilled d (opened.refill number content) place content := by
  obtain ⟨old, hopened, hnumber⟩ : ∃ old, Refilled d opened place old ∧ opened.number? place = some number := by
    obtain ⟨place', hplace', ⟨rfl, hnumber⟩ | ⟨hnone, habove, rfl, rfl⟩⟩ := openToWrite_cases hs hopen
    all_goals obtain rfl : place' = place := Except.ok.inj (hplace'.symm.trans hplace)
    · obtain ⟨node, hnode⟩ := Option.isSome_iff_exists.mp (hs.named _ number hnumber)
      have hat : opened.at? place' = some node := by rw [at?, hnumber]; exact hnode
      obtain ⟨old, hold⟩ := hfile node hat
      exact ⟨old, refilled_self hat hold, hnumber⟩
    · exact ⟨.empty, refilled_put hs hnone habove _, by rw [number?_put, if_pos rfl]⟩
  have hempty := hopened.setContent hs hnumber .empty
  unfold refill
  split
  · next hcontent =>
    have hcontent : content = .empty := ByteArray.size_eq_zero_iff.mp (beq_iff_eq.mp hcontent)
    exact hcontent ▸ hempty
  · exact hempty.setContent hs ((number?_setContent opened number .empty place).trans hnumber) content

/-- A file can be opened to be written if one is there, or could be. -/
theorem exists_openToWrite {path : String} (hs : d.Sound) (hslash : path.endsWith "/" = false)
    (hplace : d.find path = .ok place) (hfile : ∀ node, d.at? place = some node → ∃ old, node.item = .file old)
    (habove : d.enter place.dropLast = .ok ()) (mode : Nat) :
    ∃ number opened, d.openToWrite path mode = .ok (number, opened) := by
  unfold openToWrite
  rw [hslash, if_neg Bool.false_ne_true, hplace]
  simp only [bind, Except.bind]
  cases hat : d.at? place with
  | none =>
    rw [hs.number?_eq_none hat, habove]
    exact ⟨_, _, rfl⟩
  | some node =>
    obtain ⟨n, hn, -⟩ := Option.bind_eq_some_iff.mp hat
    obtain ⟨old, hold⟩ := hfile node hat
    obtain ⟨item, _, _⟩ := node
    obtain rfl : item = .file old := hold
    rw [hn]
    exact ⟨n, d, rfl⟩

end Rebuild.Disk
