import Rebuild.Disk.View
import Rebuild.Proofs.Disk.Edit

/-!
# Files on a disk

What is written to a file is read there afterwards, with a time later than all before (`get_write`), and the other files
are left as they are (`get_write_of_ne`). For this a path has to lead to the same place as before: it does where the
directories that it passes through are still there and the links are the same (`follow_of_opens`).
-/

namespace Rebuild.Disk

variable {d d' : Disk}

/-! ## Following paths -/

/-- What is a directory stays one, and the symbolic links are the same. -/
structure Opens (d d' : Disk) : Prop where
  enter : ∀ place, d.enter place = .ok () → d'.enter place = .ok ()
  link : ∀ place, d'.linkAt? place = d.linkAt? place

/-- Where a path leads to a place, it still does. -/
theorem follow_of_opens (ho : Opens d d') {followLast : Bool} {links : Nat} {place target : Place} {cs : List String}
    (h : d.follow followLast links place cs = .ok target) : d'.follow followLast links place cs = .ok target := by
  fun_induction follow d followLast links place cs with
  | case1 links place =>
    rw [follow]
    exact h
  | case3 links place c cs henter hstay ih =>
    rw [follow, ho.enter place henter]
    dsimp only
    rw [if_pos hstay]
    exact ih h
  | case4 links place c cs henter hstay hup ih =>
    rw [follow, ho.enter place henter]
    dsimp only
    rw [if_neg hstay, if_pos hup]
    exact ih h
  | case6 links place c cs henter hstay hup hshort hlink ih =>
    rw [follow, ho.enter place henter]
    dsimp only
    rw [if_neg hstay, if_neg hup, if_neg hshort, ho.link, hlink]
    exact ih h
  | case7 links place c cs henter hstay hup hshort path hlink hlast =>
    rw [follow, ho.enter place henter]
    dsimp only
    rw [if_neg hstay, if_neg hup, if_neg hshort, ho.link, hlink]
    dsimp only
    rw [if_pos hlast]
    exact h
  | case9 place c cs henter hstay hup hshort path hlink hlast links ih =>
    rw [follow, ho.enter place henter]
    dsimp only
    rw [if_neg hstay, if_neg hup, if_neg hshort, ho.link, hlink]
    dsimp only
    rw [if_neg hlast]
    exact ih h
  | _ => cases h

theorem locate_of_opens (ho : Opens d d') (hcwd : d'.cwd = d.cwd) {followLast : Bool} {path : String} {target : Place}
    (h : d.locate followLast path = .ok target) : d'.locate followLast path = .ok target := by
  unfold locate at h ⊢
  rw [hcwd]
  split at h
  · cases h
  · next hnul =>
    split at h
    · cases h
    · next hempty =>
      split at h
      · cases h
      · next hshort =>
        rw [if_neg hnul, if_neg hempty, if_neg hshort]
        exact follow_of_opens ho h

/-! ## Nodes at places -/

theorem getElem?_alter (d : Disk) (number n : Nat) (f : DiskNode → DiskNode) :
    (d.alter number f).nodes[n]? = (d.nodes[n]?).map fun node => if n = number then f node else node := by
  unfold alter
  split
  · next node hnode =>
    dsimp only
    rw [Std.TreeMap.getElem?_insert]
    split
    · next he =>
      obtain rfl := Std.LawfulEqCmp.compare_eq_iff_eq.mp he
      rw [hnode, Option.map_some, if_pos rfl]
    · next hne =>
      have hne : n ≠ number := by
        rintro rfl
        exact hne Std.ReflCmp.compare_self
      simp [hne]
  · next hnone =>
    by_cases he : n = number
    · rw [he, hnone]; rfl
    · simp [he]

theorem numbers_alter (d : Disk) (number : Nat) (f : DiskNode → DiskNode) : (d.alter number f).numbers = d.numbers :=
  (sameNames_alter d number f).numbers

/-- What the node at a place is. -/
def itemAt? (d : Disk) (place : Place) : Option DiskItem :=
  (d.at? place).map DiskNode.item

theorem enter_eq_ok_iff {place : Place} : d.enter place = .ok () ↔ d.itemAt? place = some .directory := by
  unfold enter itemAt?
  cases d.at? place with
  | none => simp
  | some node =>
    obtain ⟨item, _, _⟩ := node
    cases item <;> simp

theorem linkAt?_eq (d : Disk) (place : Place) : d.linkAt? place = (d.itemAt? place).bind fun
    | .link target => some target
    | _ => none := by
  unfold linkAt? itemAt?
  cases d.at? place with
  | none => rfl
  | some node =>
    obtain ⟨item, _, _⟩ := node
    cases item <;> rfl

/-- Nothing but files changed, and files that are new are where nothing was. -/
theorem opens_of_itemAt? (h : ∀ place, d'.itemAt? place = d.itemAt? place ∨
      (∃ content, d'.itemAt? place = some (.file content)) ∧
        (d.itemAt? place = none ∨ ∃ content, d.itemAt? place = some (.file content))) : Opens d d' where
  enter place hd := by
    rw [enter_eq_ok_iff] at hd ⊢
    rcases h place with he | ⟨-, hnone | ⟨_, hfile⟩⟩
    · rw [he, hd]
    · rw [hd] at hnone; cases hnone
    · rw [hd] at hfile; cases hfile
  link place := by
    rw [linkAt?_eq, linkAt?_eq]
    rcases h place with he | ⟨⟨_, hfile'⟩, hnone | ⟨_, hfile⟩⟩
    · rw [he]
    · rw [hfile', hnone]; rfl
    · rw [hfile', hfile]; rfl

/-! ## New bytes -/

/-- A node with new bytes, if it is a file. -/
def withContent (content : ByteArray) (time : Time) (node : DiskNode) : DiskNode :=
  match node.item with
  | .file _ => { node with item := .file content, modified := time }
  | _ => node

/-- New bytes change the node with a number, wherever names lead to it. -/
theorem at?_setContent (d : Disk) (number : Nat) (content : ByteArray) (place : Place) :
    (d.setContent number content).at? place = (d.at? place).map fun node =>
      if d.number? place = some number then withContent content (d.clock + 1) node else node := by
  have hnumbers : (d.setContent number content).number? place = d.number? place := by
    unfold setContent number?
    rw [numbers_alter]
    rfl
  unfold at?
  rw [hnumbers]
  cases d.number? place with
  | none => rfl
  | some n =>
    rw [Option.bind_some, Option.bind_some, setContent, getElem?_alter]
    simp only [Option.some.injEq]
    rfl

theorem opens_setContent (d : Disk) (number : Nat) (content : ByteArray) : Opens d (d.setContent number content) := by
  refine opens_of_itemAt? fun place => ?_
  unfold itemAt?
  rw [at?_setContent]
  cases d.at? place with
  | none => exact Or.inl rfl
  | some node =>
    obtain ⟨item, mode, time⟩ := node
    by_cases hnumber : d.number? place = some number
    · cases item <;> simp [hnumber, withContent]
    · simp [hnumber]

/-! ## New files -/

theorem Sound.number?_eq_none (hs : d.Sound) {place : Place} (h : d.at? place = none) : d.number? place = none := by
  cases hn : d.number? place with
  | none => rfl
  | some number =>
    obtain ⟨node, hnode⟩ := Option.isSome_iff_exists.mp (hs.named _ number hn)
    rw [at?, hn, Option.bind_some, hnode] at h
    cases h

theorem Sound.number?_ne_next (hs : d.Sound) {place : Place} : d.number? place ≠ some d.next := fun h =>
  Nat.lt_irrefl _ (hs.bounded d.next (hs.named _ _ h))

theorem number?_put (d : Disk) (place : Place) (item : DiskItem) (mode : Nat) (p : Place) :
    (d.put place item mode).number? p = if pathOf p = pathOf place then some d.next else d.number? p := by
  have hnumbers : (d.put place item mode).numbers = d.numbers.insert (pathOf place) d.next :=
    (sameNames_refreshParent _ place).numbers
  unfold number?
  rw [hnumbers, Std.TreeMap.getElem?_insert]
  simp only [Std.LawfulEqCmp.compare_eq_iff_eq, @eq_comm _ (pathOf p)]

/-- A new name changes no other node than that of the directory that it is in, and this only in its time. -/
theorem getElem?_addName (hs : d.Sound) {place : Place} (hnone : d.at? place = none) {n : Nat} (hn : n < d.next) :
    (d.addName place d.next).nodes[n]? = (d.nodes[n]?).map fun node =>
      if some n = d.number? place.dropLast then { node with modified := d.clock + 1 } else node := by
  let e : Disk := { d.tick with numbers := d.numbers.insert (pathOf place) d.next }
  have hparent : e.number? place.dropLast = if pathOf place.dropLast = pathOf place then some d.next
      else d.number? place.dropLast := by
    show (d.numbers.insert (pathOf place) d.next)[pathOf place.dropLast]? = _
    rw [Std.TreeMap.getElem?_insert]
    simp only [Std.LawfulEqCmp.compare_eq_iff_eq, @eq_comm _ (pathOf place)]
    rfl
  show (e.refreshParent place).nodes[n]? = _
  unfold refreshParent
  rw [hparent]
  by_cases hsame : pathOf place.dropLast = pathOf place
  · have hnumber : d.number? place.dropLast = none := by
      rw [number?, hsame]
      exact hs.number?_eq_none hnone
    rw [if_pos hsame, hnumber]
    dsimp only
    rw [refresh, getElem?_alter]
    simp [Nat.ne_of_lt hn]
    rfl
  · rw [if_neg hsame]
    cases d.number? place.dropLast with
    | none => simp; rfl
    | some k =>
      dsimp only
      rw [refresh, getElem?_alter]
      simp only [Option.some.injEq]
      rfl

/-- Where nothing was, a new node is there, and nothing else changes but the time of the directory that it is in. -/
theorem at?_put (hs : d.Sound) {place : Place} (hnone : d.at? place = none) (item : DiskItem) (mode : Nat) (p : Place) :
    (d.put place item mode).at? p = if pathOf p = pathOf place then some ⟨item, mode, d.clock + 1⟩
      else (d.at? p).map fun node =>
        if d.number? p = d.number? place.dropLast then { node with modified := d.clock + 1 } else node := by
  have hclock : (d.addName place d.next).clock = d.clock + 1 := clock_refreshParent _ place
  have hnodes (n : Nat) : (d.put place item mode).nodes[n]? =
      if n = d.next then some ⟨item, mode, d.clock + 1⟩ else (d.addName place d.next).nodes[n]? := by
    show ((d.addName place d.next).nodes.insert d.next ⟨item, mode, (d.addName place d.next).clock⟩)[n]? = _
    rw [hclock, Std.TreeMap.getElem?_insert]
    simp only [Std.LawfulEqCmp.compare_eq_iff_eq, @eq_comm _ n]
  unfold at?
  rw [number?_put]
  split
  · rw [Option.bind_some, hnodes, if_pos rfl]
  · cases hn : d.number? p with
    | none => rfl
    | some n =>
      have hbound : n < d.next := hs.bounded n (hs.named _ n hn)
      rw [Option.bind_some, Option.bind_some, hnodes, if_neg (Nat.ne_of_lt hbound), getElem?_addName hs hnone hbound]

theorem opens_put (hs : d.Sound) {place : Place} (hnone : d.at? place = none) (content : ByteArray) (mode : Nat) :
    Opens d (d.put place (.file content) mode) := by
  refine opens_of_itemAt? fun p => ?_
  unfold itemAt?
  rw [at?_put hs hnone]
  by_cases hp : pathOf p = pathOf place
  · have hold : d.at? p = none := by
      rw [at?, number?, hp]
      exact hnone
    rw [if_pos hp, hold]
    exact Or.inr ⟨⟨content, rfl⟩, Or.inl rfl⟩
  · rw [if_neg hp, Option.map_map]
    refine Or.inl (congrArg (Option.map · (d.at? p)) (funext fun node => ?_))
    dsimp only [Function.comp_apply]
    split <;> rfl

/-! ## Writing -/

section

variable {path : String} {place : Place} {node : DiskNode} {content : ByteArray}

theorem get_eq_ok_iff : d.get path = .ok node ↔ ∃ place, d.find path = .ok place ∧ d.at? place = some node := by
  unfold get
  rw [Except.bind_eq_ok_iff]
  refine exists_congr fun place => and_congr_right fun _ => ?_
  unfold nodeAt
  cases d.at? place <;> simp

/-- A path whose place stays leads to the node that is there. -/
theorem get_of_opens (ho : Opens d d') (hcwd : d'.cwd = d.cwd) (hfind : d.find path = .ok place)
    (hnode : d'.at? place = some node) : d'.get path = .ok node :=
  get_eq_ok_iff.mpr ⟨place, locate_of_opens ho hcwd hfind, hnode⟩

theorem clock_setContent (d : Disk) (number : Nat) (content : ByteArray) :
    (d.setContent number content).clock = d.clock + 1 :=
  clock_alter d.tick number _

/-- New bytes are read at every path that leads to their node. -/
theorem get_setContent {number : Nat} {old : ByteArray} (hfind : d.find path = .ok place)
    (hnumber : d.number? place = some number) (hnode : d.at? place = some node) (hfile : node.item = .file old) :
    (d.setContent number content).get path = .ok { node with item := .file content, modified := d.clock + 1 } := by
  refine get_of_opens (opens_setContent d number content) (grows_setContent d number content).cwd_eq hfind ?_
  rw [at?_setContent, hnode, Option.map_some, if_pos hnumber, withContent, hfile]

theorem get_setContent_of_ne {number : Nat} (hfind : d.find path = .ok place) (hnumber : d.number? place ≠ some number)
    (hnode : d.at? place = some node) : (d.setContent number content).get path = .ok node := by
  refine get_of_opens (opens_setContent d number content) (grows_setContent d number content).cwd_eq hfind ?_
  rw [at?_setContent, hnode, Option.map_some, if_neg hnumber]

/-- A file is opened where it is, or made where nothing is. -/
theorem openToWrite_cases (hs : d.Sound) {mode number : Nat} (h : d.openToWrite path mode = .ok (number, d')) :
    ∃ place, d.find path = .ok place ∧ (d' = d ∧ d.number? place = some number ∨
      d.at? place = none ∧ d.enter place.dropLast = .ok () ∧ number = d.next ∧
        d' = d.put place (.file .empty) (d.masked mode)) := by
  unfold openToWrite at h
  split at h
  · obtain ⟨place, _, h⟩ := Except.bind_eq_ok_iff.mp h
    obtain ⟨_, _, h⟩ := Except.bind_eq_ok_iff.mp h
    cases h
  · obtain ⟨place, hplace, h⟩ := Except.bind_eq_ok_iff.mp h
    refine ⟨place, hplace, ?_⟩
    cases hnode : d.at? place with
    | none =>
      rw [hs.number?_eq_none hnode, hnode] at h
      obtain ⟨_, henter, h⟩ := Except.bind_eq_ok_iff.mp h
      cases h
      exact Or.inr ⟨rfl, henter, rfl, rfl⟩
    | some node =>
      obtain ⟨number', hnumber, -⟩ := Option.bind_eq_some_iff.mp hnode
      rw [hnumber, hnode] at h
      split at h
      · cases h
      · next heq _ =>
        cases h
        exact Or.inl ⟨rfl, hnumber.trans heq⟩
      · next hother =>
        exact absurd rfl (hother number' node rfl)

/-- **What is written to a file is read there**, and is later than all before. -/
theorem get_write (hs : d.Sound) (h : d.write path content = .ok d')
    (hfile : ∀ node, d.get path = .ok node → ∃ old, node.item = .file old) :
    ∃ node, d'.get path = .ok node ∧ node.item = .file content ∧ node.modified = d'.clock ∧ d.clock < d'.clock := by
  obtain ⟨⟨number, opened⟩, hopened, rfl⟩ := Except.map_eq_ok_iff.mp h
  dsimp only
  rw [clock_setContent]
  have hclock : d.clock < opened.clock + 1 := Nat.lt_succ_of_le (grows_openToWrite hopened).clock_le
  obtain ⟨place, hplace, ⟨rfl, hnumber⟩ | ⟨hnone, -, rfl, rfl⟩⟩ := openToWrite_cases hs hopened
  · obtain ⟨node, hnode⟩ := Option.isSome_iff_exists.mp (hs.named _ number hnumber)
    have hat : opened.at? place = some node := by rw [at?, hnumber]; exact hnode
    obtain ⟨old, hold⟩ := hfile node (get_eq_ok_iff.mpr ⟨place, hplace, hat⟩)
    exact ⟨_, get_setContent hplace hnumber hat hold, rfl, rfl, hclock⟩
  · have hfind := locate_of_opens (opens_put hs hnone .empty (d.masked 0o666)) (grows_put d place _ _).cwd_eq hplace
    have hnumber : (d.put place (.file .empty) (d.masked 0o666)).number? place = some d.next := by
      rw [number?_put, if_pos rfl]
    have hat := at?_put hs hnone (.file .empty) (d.masked 0o666) place
    rw [if_pos rfl] at hat
    exact ⟨_, get_setContent hfind hnumber hat rfl, rfl, rfl, hclock⟩

/-- **Another file is left as it is.** -/
theorem get_write_of_ne (hs : d.Sound) {other : String} {old : ByteArray} (h : d.write path content = .ok d')
    (hnode : d.get other = .ok node) (hfile : node.item = .file old)
    (hother : ∀ place place', d.find path = .ok place → d.find other = .ok place' →
      d.number? place' ≠ d.number? place) :
    d'.get other = .ok node := by
  obtain ⟨⟨number, opened⟩, hopened, rfl⟩ := Except.map_eq_ok_iff.mp h
  obtain ⟨place', hplace', hat⟩ := get_eq_ok_iff.mp hnode
  obtain ⟨place, hplace, ⟨rfl, hnumber⟩ | ⟨hnone, henter, rfl, rfl⟩⟩ := openToWrite_cases hs hopened
  · exact get_setContent_of_ne hplace' (hnumber ▸ hother place place' hplace hplace') hat
  · have hfind := locate_of_opens (opens_put hs hnone .empty (d.masked 0o666)) (grows_put d place _ _).cwd_eq hplace'
    have hne : pathOf place' ≠ pathOf place := by
      intro he
      rw [at?, number?, he] at hat
      rw [at?, number?, hat] at hnone
      cases hnone
    have hdirectory : d.number? place' ≠ d.number? place.dropLast := by
      intro he
      rw [enter_eq_ok_iff, itemAt?, at?, ← he, ← at?, hat] at henter
      exact absurd (hfile.symm.trans (Option.some.inj henter)) (by simp)
    have hat' : (d.put place (.file .empty) (d.masked 0o666)).at? place' = some node := by
      rw [at?_put hs hnone, if_neg hne, hat, Option.map_some, if_neg hdirectory]
    have hnumber : (d.put place (.file .empty) (d.masked 0o666)).number? place' ≠ some d.next := by
      rw [number?_put, if_neg hne]
      exact hs.number?_ne_next
    exact get_setContent_of_ne hfind hnumber hat'

end

end Rebuild.Disk
