import Rebuild.Disk.Edit
import Rebuild.Proofs.Except

/-!
# What changes of a disk keep

On a disk that is `Sound` every name leads to a node, and the numbers of nodes yet to come are unused. All changes keep
a disk sound, keep its working directory and its mask, and never set back its clock (`Grows`): the single ones, such as
giving a file new bytes (`grows_setContent`), putting a new node somewhere (`grows_put`) or moving a name
(`grows_move`), and so those that are made of them, whatever paths they are given (`grows_write`, `grows_rename` and the
others). Disks are sound at their start (`sound_empty`).
-/

namespace Rebuild.Disk

variable {d d' d'' : Disk}

/-- Every name leads to a node, and no node has the number of one yet to come. -/
structure Sound (d : Disk) : Prop where
  named : ∀ (path : String) (number : Nat), d.numbers[path]? = some number → (d.nodes[number]?).isSome
  bounded : ∀ number : Nat, (d.nodes[number]?).isSome → number < d.next

/-- What no change of a disk undoes. -/
structure Grows (d d' : Disk) : Prop where
  clock_le : d.clock ≤ d'.clock
  next_le : d.next ≤ d'.next
  cwd_eq : d'.cwd = d.cwd
  mask_eq : d'.mask = d.mask
  sound : d.Sound → d'.Sound

namespace Grows

theorem refl (d : Disk) : Grows d d := ⟨Nat.le_refl _, Nat.le_refl _, rfl, rfl, id⟩

theorem trans (h : Grows d d') (h' : Grows d' d'') : Grows d d'' where
  clock_le := Nat.le_trans h.clock_le h'.clock_le
  next_le := Nat.le_trans h.next_le h'.next_le
  cwd_eq := h'.cwd_eq.trans h.cwd_eq
  mask_eq := h'.mask_eq.trans h.mask_eq
  sound := h'.sound ∘ h.sound

end Grows

/-! ## Nodes -/

/-- Two disks that differ in nothing but what their nodes are, and in their times. -/
structure SameNames (d d' : Disk) : Prop where
  numbers : d'.numbers = d.numbers
  isSome : ∀ number : Nat, (d'.nodes[number]?).isSome = (d.nodes[number]?).isSome
  next : d'.next = d.next
  cwd : d'.cwd = d.cwd
  mask : d'.mask = d.mask

theorem SameNames.grows (h : SameNames d d') (hclock : d.clock ≤ d'.clock) : Grows d d' where
  clock_le := hclock
  next_le := Nat.le_of_eq h.next.symm
  cwd_eq := h.cwd
  mask_eq := h.mask
  sound hs := by
    constructor
    · intro path number hnumber
      rw [h.isSome]
      exact hs.named path number (h.numbers ▸ hnumber)
    · intro number hnode
      rw [h.next]
      exact hs.bounded number (h.isSome number ▸ hnode)

theorem sameNames_alter (d : Disk) (number : Nat) (f : DiskNode → DiskNode) : SameNames d (d.alter number f) := by
  unfold alter
  split
  · next node hnode =>
    refine ⟨rfl, fun n => ?_, rfl, rfl, rfl⟩
    dsimp only
    rw [Std.TreeMap.getElem?_insert]
    split
    · next he => rw [← Std.LawfulEqCmp.compare_eq_iff_eq.mp he, hnode]; rfl
    · rfl
  · exact ⟨rfl, fun _ => rfl, rfl, rfl, rfl⟩

@[simp] theorem clock_alter (d : Disk) (number : Nat) (f : DiskNode → DiskNode) :
    (d.alter number f).clock = d.clock := by
  unfold alter
  split <;> rfl

theorem grows_alter (d : Disk) (number : Nat) (f : DiskNode → DiskNode) : Grows d (d.alter number f) :=
  (sameNames_alter d number f).grows (Nat.le_of_eq (clock_alter d number f).symm)

theorem grows_tick (d : Disk) : Grows d d.tick :=
  SameNames.grows ⟨rfl, fun _ => rfl, rfl, rfl, rfl⟩ (Nat.le_succ _)

theorem sameNames_refreshParent (d : Disk) (place : Place) : SameNames d (d.refreshParent place) := by
  unfold refreshParent
  split
  · exact sameNames_alter d _ _
  · exact ⟨rfl, fun _ => rfl, rfl, rfl, rfl⟩

@[simp] theorem clock_refreshParent (d : Disk) (place : Place) : (d.refreshParent place).clock = d.clock := by
  unfold refreshParent
  split
  · exact clock_alter d _ _
  · rfl

theorem grows_refreshParent (d : Disk) (place : Place) : Grows d (d.refreshParent place) :=
  (sameNames_refreshParent d place).grows (Nat.le_of_eq (clock_refreshParent d place).symm)

theorem grows_setContent (d : Disk) (number : Nat) (content : ByteArray) : Grows d (d.setContent number content) :=
  (grows_tick d).trans (grows_alter d.tick number _)

/-! ## Names -/

/-- Names may change if they lead to nodes afterwards, too. -/
theorem Grows.names (h : Grows d d') {numbers : Std.TreeMap String Nat}
    (hnamed : d.Sound → ∀ (path : String) (number : Nat), numbers[path]? = some number → (d'.nodes[number]?).isSome) :
    Grows d { d' with numbers } :=
  ⟨h.clock_le, h.next_le, h.cwd_eq, h.mask_eq, fun hs => ⟨hnamed hs, (h.sound hs).bounded⟩⟩

theorem grows_addName {number : Nat} (place : Place) (hnode : d.Sound → (d.nodes[number]?).isSome) :
    Grows d (d.addName place number) := by
  refine ((grows_tick d).names fun hs path n hn => ?_).trans (grows_refreshParent _ place)
  rw [Std.TreeMap.getElem?_insert] at hn
  split at hn
  · cases hn
    exact hnode hs
  · exact hs.named path n hn

/-- A new name may lead to a new node, which has the number of the next one. -/
theorem Sound.insert (hs : d.Sound) {path : String} (hnumbers : d'.numbers = d.numbers.insert path d.next)
    (hnodes : ∀ number : Nat, (d'.nodes[number]?).isSome ↔ number = d.next ∨ (d.nodes[number]?).isSome)
    (hnext : d'.next = d.next + 1) : d'.Sound where
  named p number h := by
    rw [hnodes]
    rw [hnumbers, Std.TreeMap.getElem?_insert] at h
    split at h
    · exact Or.inl (Option.some.inj h).symm
    · exact Or.inr (hs.named p number h)
  bounded number h := by
    rw [hnext]
    rcases (hnodes number).mp h with rfl | h
    · exact Nat.lt_succ_self _
    · exact Nat.lt_succ_of_lt (hs.bounded number h)

theorem isSome_getElem?_insert {nodes : Std.TreeMap Nat DiskNode} {new number : Nat} {node : DiskNode} :
    ((nodes.insert new node)[number]?).isSome ↔ number = new ∨ (nodes[number]?).isSome := by
  rw [Std.TreeMap.getElem?_insert]
  split
  · next he => simp [Std.LawfulEqCmp.compare_eq_iff_eq.mp he]
  · next hne =>
    have hne : number ≠ new := by
      rintro rfl
      exact hne Std.ReflCmp.compare_self
    simp [hne]

theorem grows_put (d : Disk) (place : Place) (item : DiskItem) (mode : Nat) : Grows d (d.put place item mode) := by
  have hnames : SameNames { d.tick with numbers := d.numbers.insert (pathOf place) d.next } (d.addName place d.next) :=
    sameNames_refreshParent _ place
  have hclock : (d.addName place d.next).clock = d.clock + 1 := clock_refreshParent _ place
  refine ⟨?_, Nat.le_succ _, hnames.cwd, hnames.mask, fun hs => hs.insert hnames.numbers (fun number => ?_) rfl⟩
  · show d.clock ≤ (d.addName place d.next).clock
    exact hclock ▸ Nat.le_succ _
  · show (((d.addName place d.next).nodes.insert d.next _)[number]?).isSome ↔ _
    rw [isSome_getElem?_insert, hnames.isSome]
    rfl

/-- What a name leads to after names were removed, it led to before. -/
theorem of_getElem?_removeAll {place : Place} {path : String} {number : Nat}
    (h : (d.removeAll place).numbers[path]? = some number) : d.numbers[path]? = some number := by
  rw [removeAll, (sameNames_refreshParent _ place).numbers, Std.TreeMap.getElem?_filter] at h
  obtain ⟨h, -⟩ := Option.pfilter_eq_some_iff.mp h
  rw [Std.TreeMap.getElem?_erase] at h
  split at h
  · cases h
  · exact h

theorem isSome_removeAll (d : Disk) (place : Place) (number : Nat) :
    ((d.removeAll place).nodes[number]?).isSome = (d.nodes[number]?).isSome := by
  rw [removeAll, (sameNames_refreshParent _ place).isSome]
  rfl

theorem grows_removeAll (d : Disk) (place : Place) : Grows d (d.removeAll place) := by
  refine ((grows_tick d).names fun hs path number hnumber => ?_).trans (grows_refreshParent _ place)
  have hremoved : (d.removeAll place).numbers[path]? = some number := by
    rw [removeAll, (sameNames_refreshParent _ place).numbers]
    exact hnumber
  exact hs.named path number (of_getElem?_removeAll hremoved)

/-- A place that something is moved to leads to its node. -/
theorem grows_move (d : Disk) (source target : Place) : Grows d (d.move source target) := by
  unfold move
  dsimp only
  refine (((grows_removeAll d target).trans (grows_removeAll _ source)).names fun hs path number hnumber => ?_).trans
    (grows_refreshParent _ target)
  rw [isSome_removeAll, isSome_removeAll]
  rw [Std.TreeMap.getElem?_insertMany_list] at hnumber
  rcases Option.or_eq_some_iff.mp hnumber with hmoved | ⟨-, hkept⟩
  · rw [List.findSomeRev?_eq_findSome?_reverse] at hmoved
    obtain ⟨⟨here, n⟩, hmem, hn⟩ := List.exists_of_findSome?_eq_some hmoved
    obtain ⟨⟨old, n'⟩, hold, hpair⟩ := List.mem_filterMap.mp (List.mem_reverse.mp hmem)
    have hsame : n' = number := by grind
    exact hs.named old number (hsame ▸ Std.TreeMap.mem_toList_iff_getElem?_eq_some.mp hold)
  · exact hs.named path number (of_getElem?_removeAll (of_getElem?_removeAll hkept))

/-! ## Changes at the ends of paths -/

/-- A change that, if it succeeds, undoes nothing. -/
structure OnlyGrows (d : Disk) (change : Except SystemFault Disk) : Prop where
  grows : ∀ d', change = .ok d' → Grows d d'

namespace OnlyGrows

theorem ok (h : Grows d d') : d.OnlyGrows (.ok d') := ⟨fun _ he => Except.ok.inj he ▸ h⟩

theorem error (fault : SystemFault) : d.OnlyGrows (.error fault) := ⟨nofun⟩

theorem bind {α : Type} {x : Except SystemFault α} {f : α → Except SystemFault Disk} (h : ∀ a, d.OnlyGrows (f a)) :
    d.OnlyGrows (x >>= f) where
  grows d' hd' := by
    obtain ⟨a, _, ha⟩ := Except.bind_eq_ok_iff.mp hd'
    exact (h a).grows d' ha

theorem ite {c : Prop} [Decidable c] {x y : Except SystemFault Disk} (hx : d.OnlyGrows x) (hy : d.OnlyGrows y) :
    d.OnlyGrows (if c then x else y) := by
  split
  · exact hx
  · exact hy

/-- A check before a change. -/
theorem guard {c : Prop} [Decidable c] {fault : SystemFault} {f : Unit → Except SystemFault Disk}
    (h : ∀ u, d.OnlyGrows (f u)) : d.OnlyGrows (if c then (throw fault >>= f) else f ()) :=
  ite (.bind h) (h ())

end OnlyGrows

theorem grows_openToWrite {path : String} {mode number : Nat} (h : d.openToWrite path mode = .ok (number, d')) :
    Grows d d' := by
  unfold openToWrite at h
  split at h
  · obtain ⟨place, _, h⟩ := Except.bind_eq_ok_iff.mp h
    obtain ⟨_, _, h⟩ := Except.bind_eq_ok_iff.mp h
    cases h
  · obtain ⟨place, _, h⟩ := Except.bind_eq_ok_iff.mp h
    split at h
    · cases h
    · cases h
      exact .refl d
    · obtain ⟨_, _, h⟩ := Except.bind_eq_ok_iff.mp h
      cases h
      exact grows_put d place _ _

section

variable (d : Disk) (path : String)

theorem grows_write (content : ByteArray) : d.OnlyGrows (d.write path content) where
  grows d' h := by
    obtain ⟨⟨number, opened⟩, hopened, rfl⟩ := Except.map_eq_ok_iff.mp h
    exact (grows_openToWrite hopened).trans (grows_setContent opened number content)

theorem grows_makeDirectory (mode : Nat) : d.OnlyGrows (d.makeDirectory path mode) :=
  .bind fun place => .ok (grows_put d place _ _)

theorem grows_makeDirectories : d.OnlyGrows (d.makeDirectories path) where
  grows d' h := by
    unfold makeDirectories at h
    extract_lets start step at h
    have hstep {state state' : String × Disk} {c : String} (hs : step state c = .ok state') :
        Grows state.2 state'.2 := by
      unfold step at hs
      extract_lets here at hs
      split at hs
      · cases hs
        exact .refl _
      · split at hs
        · cases hs
        · obtain ⟨made, hmade, rfl⟩ := Except.map_eq_ok_iff.mp hs
          exact (grows_makeDirectory state.2 here _).grows made hmade
    obtain ⟨state', hfold, rfl⟩ := Except.map_eq_ok_iff.mp h
    generalize Path.components path = cs at hfold
    suffices hall : ∀ state : String × Disk, cs.foldlM step state = .ok state' → Grows state.2 state'.2 from
      hall (start, d) hfold
    clear hfold h
    induction cs with
    | nil =>
      intro state hfold
      cases hfold
      exact .refl _
    | cons c cs ih =>
      intro state hfold
      obtain ⟨next, hnext, hfold⟩ := Except.bind_eq_ok_iff.mp hfold
      exact (hstep hnext).trans (ih next hfold)

theorem grows_makeLink (target : String) : d.OnlyGrows (d.makeLink path target) :=
  .bind fun place => .ok (grows_put d place _ _)

theorem grows_linkTo (source : Place) : d.OnlyGrows (d.linkTo source path) := by
  refine .bind fun node => .bind fun place => ?_
  split
  · exact .error _
  · next number hnumber _ => exact .ok (grows_addName place fun hs => hs.named _ number hnumber)
  · exact .error _

/-- The last part of `rename`: what has the new name may be replaced or not. -/
theorem grows_replace (old new : Place) (isDirectory : Bool) :
    d.OnlyGrows (match d.at? new with
      | none => .ok (d.move old new)
      | some there =>
        if d.number? old == d.number? new then .ok d
        else
          match there.item, isDirectory with
          | .directory, false => .error .isDirectory
          | .directory, true => if (d.names new).isEmpty then .ok (d.move old new) else .error .notEmpty
          | _, true => .error .notDirectory
          | _, false => .ok (d.move old new)) := by
  repeat' split
  all_goals first
    | exact .error _
    | exact .ok (.refl d)
    | exact .ok (grows_move d old new)

theorem grows_rename (isNew : Bool) (target : String) : d.OnlyGrows (d.rename isNew path target) := by
  unfold rename
  extract_lets findNew
  have hnew : ∀ old, d.OnlyGrows (findNew old) := fun old => by
    unfold findNew
    extract_lets checkSource
    have hsource : ∀ new, d.OnlyGrows (checkSource new) := fun new => by
      unfold checkSource
      extract_lets replace checkTarget
      have hreplace : ∀ u, d.OnlyGrows (replace u) := fun _ => by
        unfold replace
        refine .bind fun node => ?_
        extract_lets isDirectory
        exact .bind fun _ => .ite (.error _) (.ite (.error _) (.ite (.error _) (.ite (.error _)
          (grows_replace d old new isDirectory))))
      have htarget : ∀ u, d.OnlyGrows (checkTarget u) := fun _ => .guard hreplace
      exact .guard htarget
    exact .ite (.bind hsource) (.bind hsource)
  exact .ite (.bind hnew) (.bind hnew)

theorem grows_unlink : d.OnlyGrows (d.unlink path) := by
  unfold unlink
  extract_lets remove
  have hremove : ∀ u, d.OnlyGrows (remove u) := fun _ => by
    unfold remove
    refine .bind fun place => .bind fun node => ?_
    split
    · exact .error _
    · exact .ite (.error _) (.ok (grows_removeAll d place))
  exact .ite (.bind fun _ => .bind hremove) (hremove ())

theorem grows_removeDirectory : d.OnlyGrows (d.removeDirectory path) := by
  unfold removeDirectory
  extract_lets remove
  have hremove : ∀ u, d.OnlyGrows (remove u) := fun _ => by
    unfold remove
    refine .bind fun place => .bind fun node => ?_
    split
    · exact .ite (.ok (grows_removeAll d place)) (.error _)
    · exact .error _
  exact .ite (.bind fun _ => .bind hremove) (hremove ())

theorem grows_stamp (follows : Bool) (time : Time) : d.OnlyGrows (d.stamp follows path time) := by
  refine .bind fun place => ?_
  split
  · exact .ok (grows_alter d _ _)
  · exact .error _

theorem grows_permit (mode : Nat) : d.OnlyGrows (d.permit path mode) := by
  refine .bind fun place => ?_
  split
  · exact .ok (grows_alter d _ _)
  · exact .error _

end

/-! ## Disks at their start -/

theorem sound_root (clock : Time) : (root clock).Sound := by
  have hnone : Sound ⟨clock, [], 0o022, ∅, ∅, 0⟩ := ⟨by simp, by simp⟩
  exact hnone.insert rfl (fun number => isSome_getElem?_insert) rfl

theorem sound_install (hs : d.Sound) (items : List (String × DiskItem × Nat)) : (d.install items).Sound := by
  unfold install
  induction items generalizing d with
  | nil => exact hs
  | cons item items ih => exact ih (hs.insert rfl (fun number => isSome_getElem?_insert) rfl)

/-- A disk is sound at its start, and so, by `Grows.sound`, after all changes. -/
theorem sound_empty (clock : Time) (programs : List String) (cwd : Place) : (empty clock programs cwd).Sound := by
  unfold empty
  extract_lets directories links programs above disk
  have hs : disk.Sound := sound_install (sound_root clock) _
  exact ⟨hs.named, hs.bounded⟩

end Rebuild.Disk
