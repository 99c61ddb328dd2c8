import Rebuild.Proofs.Process
import Rebuild.Proofs.Tool.Options
import Rebuild.Tool.Copying

/-!
# Copying a file

`cp` without options, with the path of a file and another one: if a file is at the other path, too, and not the same, or
nothing is and a file can be made there (`CanCopy`), then it ends well, and all that has changed is that the file there
holds the bytes of the first (`does_cp`).
-/

namespace Rebuild.Tool

variable {p : Process} {d opened : Disk} {name source target : String} {node : DiskNode} {bytes : ByteArray}
  {number : Nat}

/-- A file can be copied to a path: another file is there, or nothing is and one can be made. -/
structure CanCopy (d : Disk) (source target : String) (node : DiskNode) (bytes : ByteArray) (number : Nat)
    (opened : Disk) : Prop where
  get_source : d.get source = .ok node
  item_source : node.item = .file bytes
  opens : d.openToWrite target node.mode = .ok (number, opened)
  isFile_target : ∀ there, d.get target = .ok there → ∃ old, there.item = .file old
  isLink_target : ∀ there, d.getName target = .ok there → isLinkNode there = false
  numbers_ne : numberOf? d true source ≠ numberOf? d true target

theorem isDirectoryNode_of_file (h : node.item = .file bytes) : isDirectoryNode node = false := by
  unfold isDirectoryNode
  rw [h]

theorem isLinkNode_of_file (h : node.item = .file bytes) : isLinkNode node = false := by
  unfold isLinkNode
  rw [h]

section

variable (hs : d.Sound) (h : CanCopy d source target node bytes number opened)
include hs h

/-- What is opened is a file. -/
theorem CanCopy.item_opened : ∃ there old, opened.nodes[number]? = some there ∧ there.item = .file old := by
  obtain ⟨place, hplace, ⟨rfl, hnumber⟩ | ⟨-, -, rfl, rfl⟩⟩ := Disk.openToWrite_cases hs h.opens
  · obtain ⟨there, hthere⟩ := Option.isSome_iff_exists.mp (hs.named _ number hnumber)
    have hat : opened.at? place = some there := by rw [Disk.at?, hnumber]; exact hthere
    obtain ⟨old, hold⟩ := h.isFile_target there (Disk.get_eq_ok_iff.mpr ⟨place, hplace, hat⟩)
    exact ⟨there, old, hthere, hold⟩
  · exact ⟨⟨.file .empty, d.masked node.mode, (d.addName place d.next).clock⟩, .empty, by simp [Disk.put], rfl⟩

/-- If nothing is at the target, this is all that is wrong there. -/
theorem CanCopy.noEntry_target {fault : SystemFault} (hget : d.get target = .error fault) : fault = .noEntry := by
  obtain ⟨place, hplace, -⟩ := Disk.openToWrite_cases hs h.opens
  unfold Disk.get at hget
  rw [hplace] at hget
  change d.nodeAt place = _ at hget
  unfold Disk.nodeAt at hget
  split at hget <;> cases hget
  rfl

end

/-! ## What is remembered while files are copied -/

/-- An action of copying goes well, with a result, and leaves what is remembered and a process. -/
def DoesCopy (x : CopyM α) (m : CopyMemory) (p : Process) (a : α) (m' : CopyMemory) (p' : Process) : Prop :=
  Does (x.run m) p (a, m') p'

namespace DoesCopy

variable {m m' m'' : CopyMemory} {p' p'' : Process}

theorem pure {α : Type} (a : α) (m : CopyMemory) (p : Process) : DoesCopy (Pure.pure a) m p a m p := rfl

theorem bind {α β : Type} {x : CopyM α} {f : α → CopyM β} {a : α} {b : β} (h : DoesCopy x m p a m' p')
    (hf : DoesCopy (f a) m' p' b m'' p'') : DoesCopy (x >>= f) m p b m'' p'' :=
  Does.bind h hf

theorem lift {α : Type} {x : ToolM α} {a : α} (h : Does x p a p') : DoesCopy (liftM x) m p a m p' :=
  Does.bind h (.pure _ _)

theorem get (m : CopyMemory) (p : Process) : DoesCopy MonadState.get m p m m p := rfl

end DoesCopy

/-- What is remembered at the start by a command with one source. -/
def fresh : CopyMemory := ⟨false, [], [], []⟩

/-- No path is among those that were made by then. -/
theorem any_made_fresh (found : Option (Place × Nat)) : found.any fresh.made.contains = false := by
  cases found <;> rfl

/-! ## Operands -/

/-- How files are copied where nothing is said about it. -/
def plainCopy (name : String) : CopyStyle := { name, follows := .always }

theorem does_complete (name : String) (p : Process) : Does (CopyStyle.complete { name } []) p (plainCopy name) p := rfl

theorem does_targetDirectory? (name : String) (p : Process) : Does (targetDirectory? name []) p none p := rfl

theorem does_destination (h : ∀ there, p.disk.get target = .ok there → isDirectoryNode there = false) :
    Does (destination name none false [source, target]) p ([source], .to target) p := by
  unfold destination
  refine .bind (does_disk p) ?_
  dsimp only
  rw [show [source, target].getLast?.getD "" = target from rfl]
  cases hget : p.disk.get target with
  | error fault => rfl
  | ok there =>
    dsimp only
    rw [h there hget]
    rfl

theorem does_forEachSource {action : String → String → CopyM Bool} {m : CopyMemory} {p' : Process}
    (h : DoesCopy (action source target) fresh p true m p') :
    Does (forEachSource [source] (.to target) action) p 0 p' :=
  .bind (.bind (.bind h (.pure (0, m) p')) (.pure _ p')) (.pure 0 p')

/-! ## What is there already -/

theorem sameness_of_ne (h : numberOf? d true source ≠ numberOf? d true target) :
    (plainCopy name).sameness d true true source target = (true, false) := by
  unfold CopyStyle.sameness plainCopy
  simp [h]

theorem does_makeRoom {there : DiskNode} (hfile : node.item = .file bytes) :
    Does ((plainCopy name).makeRoom true source target node there) p (.goes false none) p := by
  unfold CopyStyle.makeRoom
  refine .bind (does_disk p) ?_
  simp [plainCopy, hfile]
  exact .pure _ p

/-- Another file is written over. -/
theorem does_checkThere {there : DiskNode} {old : ByteArray} (hfile : node.item = .file bytes)
    (hthere : there.item = .file old) (hne : numberOf? p.disk true source ≠ numberOf? p.disk true target) :
    DoesCopy ((plainCopy name).checkThere true true true source target node there) fresh p (.goes false none) fresh
      p := by
  unfold CopyStyle.checkThere
  refine .bind (.lift (does_disk p)) ?_
  rw [sameness_of_ne hne, isDirectoryNode_of_file hfile, isDirectoryNode_of_file hthere]
  refine .bind (.get fresh p) ?_
  rw [any_made_fresh]
  exact .lift (does_makeRoom hfile)

theorem does_prepare (name : String) (hs : p.disk.Sound)
    (h : CanCopy p.disk source target node bytes number opened) : ∃ isNew,
    DoesCopy ((plainCopy name).prepare true true source target node) fresh p (.goes isNew none) fresh p := by
  unfold CopyStyle.prepare
  cases hget : p.disk.get target with
  | error fault =>
    obtain rfl := h.noEntry_target hs hget
    replace hget : nodeOf p.disk true target = .error .noEntry := hget
    refine ⟨true, .bind (.lift (does_disk p)) ?_⟩
    simp [plainCopy, h.item_source, hget]
    exact .pure _ fresh p
  | ok there =>
    obtain ⟨old, hold⟩ := h.isFile_target there hget
    replace hget : nodeOf p.disk true target = .ok there := hget
    refine ⟨false, .bind (.lift (does_disk p)) ?_⟩
    simp [plainCopy, h.item_source, hget]
    exact does_checkThere h.item_source hold h.numbers_ne

/-! ## Bytes -/

theorem does_keepAttributes (hfile : node.item = .file bytes) (isNew : Bool) (p : Process) :
    Does ((plainCopy name).keepAttributes node isNew target) p () p := by
  unfold CopyStyle.keepAttributes
  rw [isLinkNode_of_file hfile]
  cases isNew <;> rfl

section

variable (name) (hs : p.disk.Sound) (hlimit : p.fileLimit? = none)
  (h : CanCopy p.disk source target node bytes number opened)
include hs hlimit h

theorem does_copyBytes (isNew : Bool) : ∃ files, Does ((plainCopy name).copyBytes source target node isNew) p true
    (p.changed (opened.refill number bytes) files) := by
  have hdangling : (isNew && (p.disk.getName target).toOption.any isLinkNode) = false := by
    cases hget : p.disk.getName target with
    | error => simp [Except.toOption]
    | ok there => simp [Except.toOption, h.isLink_target there hget]
  obtain ⟨there, old, hnode, hthere⟩ := h.item_opened hs
  obtain ⟨files, hread⟩ := Process.takeFile_eq h.get_source h.item_source
  obtain ⟨index, q, files', hopen, hwrite⟩ :=
    Process.exists_of_openPath_write (p := p.changed p.disk files) h.opens hnode hthere hlimit bytes
  refine ⟨files', ?_⟩
  unfold CopyStyle.copyBytes
  refine .bind (.lift hread) ?_
  refine .bind (show Does (getThe Process) _ (p.changed p.disk files) _ from rfl) ?_
  dsimp only
  rw [show (isNew && ((p.changed p.disk files).disk.getName target).toOption.any isLinkNode) = false from hdangling,
    if_neg Bool.false_ne_true]
  simp only [plainCopy, if_true, Option.getD_none, hopen]
  refine .bind (show Does (set q) _ () q from rfl) ?_
  refine .bind (.lift hwrite) ?_
  dsimp only
  rw [h.item_source]
  exact .bind (does_keepAttributes h.item_source isNew _) (.pure true _)

theorem does_makeFile (isNew : Bool) : ∃ files, Does ((plainCopy name).makeFile true source target node isNew) p true
    (p.changed (opened.refill number bytes) files) := by
  obtain ⟨files, hcopy⟩ := does_copyBytes name hs hlimit h isNew
  refine ⟨files, ?_⟩
  unfold CopyStyle.makeFile
  rw [h.item_source]
  exact hcopy

end

/-! ## Copies -/

theorem does_isRepeated (node : DiskNode) :
    DoesCopy ((plainCopy name).isRepeated true true source node) fresh p false fresh p := by
  unfold CopyStyle.isRepeated
  exact .bind (.lift (does_disk p)) (.bind (.get fresh p) (.pure false fresh p))

theorem does_isOwnLink : DoesCopy ((plainCopy name).isOwnLink true target) fresh p false fresh p := by
  unfold CopyStyle.isOwnLink
  refine .bind (.lift (does_disk p)) (.bind (.get fresh p) ?_)
  rw [any_made_fresh, Bool.and_false]
  exact .pure false fresh p

theorem does_earlierPath? (node : DiskNode) :
    DoesCopy ((plainCopy name).earlierPath? true true source target node) fresh p none fresh p := by
  unfold CopyStyle.earlierPath?
  refine .bind (.lift (does_disk p)) ?_
  cases numberOf? p.disk true source with
  | none => exact .pure none fresh p
  | some number => exact .bind (.get fresh p) (.pure none fresh p)

section

variable (name) (hs : p.disk.Sound) (hlimit : p.fileLimit? = none)
  (h : CanCopy p.disk source target node bytes number opened) (copyBelow : CopyStyle.Copier) (top : String × String)
include hs hlimit h

theorem does_copyNode (isNew : Bool) : ∃ files,
    DoesCopy ((plainCopy name).copyNode copyBelow true true false top source target node isNew none) fresh p
      (true, false) fresh (p.changed (opened.refill number bytes) files) := by
  obtain ⟨files, hmake⟩ := does_makeFile name hs hlimit h isNew
  refine ⟨files, ?_⟩
  unfold CopyStyle.copyNode
  rw [isDirectoryNode_of_file h.item_source]
  refine .bind (.lift (Does.pure () p)) ?_
  refine .bind (does_earlierPath? node) ?_
  refine .bind (.pure none fresh p) ?_
  refine .bind (.lift hmake) ?_
  refine .bind (.pure (true, false) fresh _) ?_
  exact .bind (.bind (.lift (does_disk _)) (show DoesCopy _ fresh _ () fresh _ from rfl)) (.pure (true, false) fresh _)

theorem does_copyWith : ∃ files,
    DoesCopy ((plainCopy name).copyWith copyBelow true false top source target) fresh p (true, false) fresh
      (p.changed (opened.refill number bytes) files) := by
  obtain ⟨isNew, hprepared⟩ := does_prepare name hs h
  obtain ⟨files, hcopy⟩ := does_copyNode name hs hlimit h copyBelow top isNew
  have hfollows : ((plainCopy name).follows == .always || true && (plainCopy name).follows == .operands) = true := rfl
  have hget : nodeOf p.disk true source = .ok node := h.get_source
  refine ⟨files, ?_⟩
  unfold CopyStyle.copyWith
  refine .bind (.lift (does_disk p)) ?_
  dsimp only
  rw [hfollows, hget]
  dsimp only
  rw [isDirectoryNode_of_file h.item_source, Bool.false_and, if_neg Bool.false_ne_true]
  refine .bind (does_isRepeated node) ?_
  refine .bind hprepared ?_
  exact .bind does_isOwnLink hcopy

/-- **`cp` with two paths ends well, and the file at the second holds the bytes of the one at the first.** -/
theorem does_cp (hsource : IsOperand source) (htarget : IsOperand target) :
    ∃ files, Does (cp name [source, target]) p 0 (p.changed (opened.refill number bytes) files) := by
  obtain ⟨files, hcopy⟩ := does_copyWith name hs hlimit h
    ((plainCopy name).copyBelow (source, target) maxDepth) (source, target)
  refine ⟨files, ?_⟩
  unfold cp
  refine .bind (does_readOptions (by simp [hsource, htarget]) copyRules name 1 p) ?_
  refine .bind (.pure ({ name } : CopyStyle) p) ?_
  refine .bind (does_targetDirectory? name p) ?_
  refine .bind (does_complete name p) ?_
  refine .bind (does_destination fun there hthere => ?_) ?_
  · obtain ⟨old, hold⟩ := h.isFile_target there hthere
    exact isDirectoryNode_of_file hold
  refine .bind (does_disk p) ?_
  exact does_forEachSource (.bind hcopy (.pure true fresh _))

end

end Rebuild.Tool
