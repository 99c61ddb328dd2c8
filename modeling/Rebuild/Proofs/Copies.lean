import Rebuild.Proofs.Disk.Plain
import Rebuild.Proofs.Machine
import Rebuild.Proofs.Tool.Copying

/-!
# Builds that copy files on a disk

Where the names of rules lead to places of their own, at which there are files or can be (`Disk.Placed`), a command that
copies one of them to another ends well, leaves the bytes of the first at the second, and keeps the names so
(`Disk.Placed.run_cp`). Plain names of files do, if no two are names of one file (`Disk.placed_of_plain`). So such a
command changes no other name (`Disk.Placed.keepsNames_cp`), and what is known of builds whose commands change no other
name than their target holds of builds by rules that only copy (`Disk.Placed.keepsNames_of_mem_buildCalls`): a dry run
foresees the real build (`Disk.Placed.dry_run_foresees_copies`), and what is built is what has something stale below it
(`Disk.Placed.mem_built_iff_copies`).
-/

namespace Rebuild

theorem Tool.lookup_cp (launch : Launcher) : (Tool.tools launch).lookup "cp" = some Tool.cp :=
  rfl

/-- Every rule copies one of its sources to its target. -/
def RuleSet.OnlyCopies (rules : RuleSet) : Prop :=
  ∀ t ∈ rules.targets, ∃ source ∈ t.deps, source ≠ t.name ∧ t.args = [source, t.name]

namespace Disk

/-- Names in the working directory of a sound disk lead to places of their own: different names to different nodes, and
each to a file or to where one can be. -/
structure Placed (d : Disk) (names : List Name) (place : Name → Place) : Prop where
  sound : d.Sound
  cwd : d.enter d.cwd = .ok ()
  leads : ∀ name ∈ names, ∀ followLast, d.locate followLast (Text.spelled name) = .ok (place name)
  leads_here : ∀ name ∈ names, d.find (Text.spelled (Path.join "." name)) = .ok (place name)
  isFile : ∀ name ∈ names, ∀ node, d.at? (place name) = some node → ∃ content, node.item = .file content
  above : ∀ name ∈ names, d.enter (place name).dropLast = .ok ()
  paths_ne : ∀ a ∈ names, ∀ b ∈ names, a ≠ b → pathOf (place a) ≠ pathOf (place b)
  numbers_ne : ∀ a ∈ names, ∀ b ∈ names, a ≠ b → ∀ n, d.number? (place b) = some n → d.number? (place a) ≠ some n

theorem linkAt?_of_file {d : Disk} {place : Place}
    (h : ∀ node, d.at? place = some node → ∃ content, node.item = .file content) : d.linkAt? place = none := by
  unfold linkAt?
  split
  · next hat =>
    obtain ⟨content, hfile⟩ := h _ hat
    cases hfile
  · rfl

/-- Plain names in a directory lead to places of their own if they are names of files at most, and not of one another's.
-/
theorem placed_of_plain {d : Disk} {names : List Name} (hs : d.Sound) (hcwd : d.enter d.cwd = .ok ())
    (hplain : ∀ name ∈ names, IsPlain name)
    (hfile : ∀ name ∈ names, ∀ node, d.at? (d.cwd ++ [name]) = some node → ∃ content, node.item = .file content)
    (hnumbers : ∀ a ∈ names, ∀ b ∈ names, a ≠ b → ∀ n, d.number? (d.cwd ++ [b]) = some n →
      d.number? (d.cwd ++ [a]) ≠ some n) : d.Placed names (d.cwd ++ [·]) where
  sound := hs
  cwd := hcwd
  leads name hname followLast := by
    rw [(hplain name hname).spelled_eq]
    exact (hplain name hname).locate_eq hcwd (linkAt?_of_file (hfile name hname)) followLast
  leads_here name hname := (hplain name hname).find_here hcwd (linkAt?_of_file (hfile name hname))
  isFile := hfile
  above name hname := by
    rw [List.dropLast_concat]
    exact hcwd
  paths_ne a ha b hb hab he := hab (pathOf_append_inj he)
  numbers_ne := hnumbers

/-- A name that can be an argument: no option, and not that of a directory. -/
structure IsArgument (name : Name) : Prop where
  isOperand : Tool.IsOperand (Text.spelled name)
  noSlash : (Text.spelled name).endsWith "/" = false

theorem find_here {d : Disk} (h : d.enter d.cwd = .ok ()) : d.find "." = .ok d.cwd := by
  have hparts : parts "." = ["."] := by decide
  unfold find locate
  rw [if_neg (by decide), if_neg (by decide), if_neg (by decide), hparts, follow,
    show Path.isAbsolute "." = false from rfl, if_neg Bool.false_ne_true, h]
  dsimp only
  rw [if_pos (by decide), follow]

namespace Placed

variable {d e : Disk} {names : List Name} {place : Name → Place} {name source target : Name} {content : ByteArray}
  (h : d.Placed names place)
include h

/-! ## What a build sees of names -/

theorem modified_eq (hname : name ∈ names) :
    FileView.modified d (Path.join "." name) = .ok ((d.at? (place name)).map DiskNode.modified) := by
  show modified d _ = _
  unfold modified get
  rw [h.leads_here name hname]
  simp only [bind, Except.bind]
  unfold nodeAt
  cases d.at? (place name) <;> rfl

theorem isThere_eq (hname : name ∈ names) :
    FileView.isThere d (Path.join "." name) = (d.at? (place name)).isSome := by
  rw [Bool.eq_iff_iff, isThere_iff, h.modified_eq hname]
  cases d.at? (place name) <;> simp

theorem legible : Legible "." d names := fun name hname =>
  ⟨_, h.modified_eq hname, by rw [h.isThere_eq hname, Option.isSome_map]⟩

/-! ## Files that are written -/

section

variable (htarget : target ∈ names) (hr : Refilled d e (place target) content)
include htarget hr

/-- A file that is written leaves the others. -/
theorem at?_of_refilled (hname : name ∈ names) (hne : name ≠ target) : e.at? (place name) = d.at? (place name) :=
  hr.elsewhere _ (h.paths_ne name hname target htarget hne) (h.numbers_ne name hname target htarget hne)
    (h.isFile name hname)

/-- A name keeps its node, but for the written file, which may be a new one. -/
theorem number?_of_refilled (hname : name ∈ names) {n : Nat} (hn : e.number? (place name) = some n) :
    d.number? (place name) = some n ∨ (name = target ∧ n = d.next) := by
  by_cases hne : name = target
  · obtain ⟨number, hnumber, hold⟩ := hr.number_here
    rw [hne, hnumber] at hn
    obtain rfl := Option.some.inj hn
    exact hold.imp (hne ▸ ·) fun hfresh => ⟨hne, hfresh⟩
  · rw [hr.number_elsewhere _ (h.paths_ne name hname target htarget hne)] at hn
    exact Or.inl hn

/-- Names lead to places of their own after a file was written, too. -/
theorem refilled : e.Placed names place where
  sound := hr.grows.sound h.sound
  cwd := hr.grows.cwd_eq ▸ hr.opens.enter d.cwd h.cwd
  leads name hname followLast := locate_of_opens hr.opens hr.grows.cwd_eq (h.leads name hname followLast)
  leads_here name hname := locate_of_opens hr.opens hr.grows.cwd_eq (h.leads_here name hname)
  isFile name hname node hnode := by
    by_cases hne : name = target
    · obtain ⟨node', hnode', hfile⟩ := hr.here
      rw [hne, hnode'] at hnode
      obtain rfl := Option.some.inj hnode
      exact ⟨content, hfile⟩
    · rw [h.at?_of_refilled htarget hr hname hne] at hnode
      exact h.isFile name hname node hnode
  above name hname := hr.opens.enter _ (h.above name hname)
  paths_ne := h.paths_ne
  numbers_ne a ha b hb hab n hbn han := by
    rcases h.number?_of_refilled htarget hr hb hbn with hbn | ⟨hbt, hfresh⟩
    · rcases h.number?_of_refilled htarget hr ha han with han | ⟨-, hfresh⟩
      · exact h.numbers_ne a ha b hb hab n hbn han
      · exact h.sound.number?_ne_next (hfresh ▸ hbn)
    · rcases h.number?_of_refilled htarget hr ha han with han | ⟨hat, -⟩
      · exact h.sound.number?_ne_next (hfresh ▸ han)
      · exact hab (hat.trans hbt.symm)

end

/-! ## Copies -/

section

variable (hsource : source ∈ names) (htarget : target ∈ names) (hne : source ≠ target)
  (hthere : FileView.isThere d (Path.join "." source) = true)
include hsource htarget hne hthere

theorem exists_canCopy (hslash : (Text.spelled target).endsWith "/" = false) : ∃ node bytes number opened,
    d.at? (place source) = some node ∧
      Tool.CanCopy d (Text.spelled source) (Text.spelled target) node bytes number opened := by
  rw [h.isThere_eq hsource] at hthere
  obtain ⟨node, hnode⟩ := Option.isSome_iff_exists.mp hthere
  obtain ⟨bytes, hbytes⟩ := h.isFile source hsource node hnode
  obtain ⟨number, opened, hopen⟩ := exists_openToWrite h.sound hslash (h.leads target htarget true)
    (h.isFile target htarget) (h.above target htarget) node.mode
  have hget (followLast : Bool) {there : DiskNode}
      (hthere : (d.locate followLast (Text.spelled target) >>= d.nodeAt) = .ok there) :
      ∃ old, there.item = .file old := by
    rw [h.leads target htarget] at hthere
    change d.nodeAt (place target) = _ at hthere
    unfold nodeAt at hthere
    split at hthere
    · next there' hat =>
      cases hthere
      exact h.isFile target htarget _ hat
    · cases hthere
  refine ⟨node, bytes, number, opened, hnode, ?_, hbytes, hopen, fun there => hget true, fun there hget' => ?_, ?_⟩
  · exact get_eq_ok_iff.mpr ⟨place source, h.leads source hsource true, hnode⟩
  · obtain ⟨old, hold⟩ := hget false hget'
    exact Tool.isLinkNode_of_file hold
  · unfold Tool.numberOf?
    rw [h.leads source hsource, h.leads target htarget]
    obtain ⟨n, hn, -⟩ := Option.bind_eq_some_iff.mp hnode
    show d.number? (place source) ≠ d.number? (place target)
    rw [hn]
    intro he
    exact h.numbers_ne source hsource target htarget hne n he.symm hn

/-- **A command that copies one name to another ends well**, and what is at the first is then at the second. -/
theorem run_cp {environment : List (String × String)} {i : Invocation} (hcwd : i.cwd = ".")
    (hargs : i.args = [source, target]) (hleads : LeadsTo environment i.program i.args "cp" d)
    (hsourceArg : IsArgument source) (htargetArg : IsArgument target) : ∃ node bytes e,
    d.at? (place source) = some node ∧ node.item = .file bytes ∧ run environment i d = (.ok ⟨.exited 0, "", ""⟩, e) ∧
      Refilled d e (place target) bytes := by
  obtain ⟨node, bytes, number, opened, hnode, hcopy⟩ :=
    h.exists_canCopy hsource htarget hne hthere htargetArg.noSlash
  have hr : Refilled d (opened.refill number bytes) (place target) bytes := refilled_of_openToWrite h.sound hcopy.opens
    (h.leads target htarget true) (h.isFile target htarget) bytes
  obtain ⟨files, hdoes⟩ := Tool.does_cp (p := d.startOf environment) (Text.spelled i.program) h.sound rfl hcopy
    hsourceArg.isOperand htargetArg.isOperand
  refine ⟨node, bytes, _, hnode, hcopy.item_source, ?_, hr⟩
  rw [hargs] at hleads
  have hstart := start_of_does hleads rfl Tool.lookup_cp hdoes rfl
  unfold run
  dsimp only
  rw [hcwd, find_here h.cwd, hargs]
  dsimp only
  rw [hstart]
  -- the program has written nothing, and its disk has the directory and the mask of the one before it
  have hsilent (buffer : Nat) (hbuffer : (d.startOf environment).bufferBytes buffer = .empty) :
      writtenTo ((d.startOf environment).changed (opened.refill number bytes) files) buffer = "" :=
    (congrArg Text.Utf8.decodeLossy hbuffer).trans rfl
  have hdisk : ({ opened.refill number bytes with cwd := d.cwd, mask := d.mask } : Disk) =
      opened.refill number bytes := by
    rw [← hr.grows.cwd_eq, ← hr.grows.mask_eq]
  rw [hsilent 0 rfl, hsilent 1 rfl]
  exact congrArg (Prod.mk _) hdisk

/-- It changes no other name. -/
theorem keepsNames_cp {environment : List (String × String)} {i : Invocation} (hcwd : i.cwd = ".")
    (htargetName : i.target = target) (hargs : i.args = [source, target])
    (hleads : LeadsTo environment i.program i.args "cp" d) (hsourceArg : IsArgument source)
    (htargetArg : IsArgument target) :
    (run environment).KeepsNames "." names i d ∧ (run environment i d).2.Placed names place := by
  obtain ⟨node, bytes, e, -, -, hrun, hr⟩ :=
    h.run_cp hsource htarget hne hthere hcwd hargs hleads hsourceArg htargetArg
  have hplaced := h.refilled htarget hr
  refine ⟨⟨?_, fun name hname hother => ?_⟩, ?_⟩
  · rw [hrun]
    exact hplaced.legible
  · rw [hrun, hplaced.modified_eq hname, h.modified_eq hname,
      h.at?_of_refilled htarget hr hname (htargetName ▸ hother)]
  · rw [hrun]
    exact hplaced

end

end Placed

/-! ## Builds -/

section

variable {d : Disk} {place : Name → Place} {environment : List (String × String)} {rules : RuleSet}
  {target : Option Name} (h : d.Placed rules.names place) (hargument : ∀ name ∈ rules.names, IsArgument name)
  (hcopies : rules.OnlyCopies)
  (hleads : ∀ call ∈ buildCalls (run environment) "." rules target d,
    LeadsTo environment call.1.program call.1.args "cp" call.2)
include h hargument hcopies hleads

/-- **Commands of rules that only copy change no other name than their target.** -/
theorem Placed.keepsNames_of_mem_buildCalls : ∀ call ∈ buildCalls (run environment) "." rules target d,
    (run environment).KeepsNames "." rules.names call.1 call.2 := by
  have hcall : ∀ call ∈ buildCalls (run environment) "." rules target d, call.2.Placed rules.names place →
      (∀ dep ∈ call.1.deps, FileView.isThere call.2 (Path.join "." dep) = true) →
      (run environment).KeepsNames "." rules.names call.1 call.2 ∧
        (run environment call.1 call.2).2.Placed rules.names place := by
    intro call hmem hplaced hthere
    obtain ⟨t, ht, hinvocation⟩ := exists_target_of_mem_buildCalls hmem
    obtain ⟨source, hsource, hne, hargs⟩ := hcopies t ht
    have hsourceName : source ∈ rules.names := RuleSet.dep_mem_names ht hsource
    have htargetName : t.name ∈ rules.names := RuleSet.name_mem_names ht
    refine hplaced.keepsNames_cp hsourceName htargetName hne ?_ ?_ ?_ ?_ (hleads call hmem)
      (hargument source hsourceName) (hargument t.name htargetName)
    · exact hthere source (by rw [hinvocation]; exact hsource)
    · rw [hinvocation]; rfl
    · rw [hinvocation]; rfl
    · rw [hinvocation]; exact hargs
  intro call hmem
  obtain ⟨hplaced, hthere⟩ := start_of_mem_buildCalls (P := fun e => e.Placed rules.names place)
    (fun call hmem hplaced hthere => (hcall call hmem hplaced hthere).2) h call hmem
  exact (hcall call hmem hplaced hthere).1

variable (hd : rules.Distinct ".") (htarget : ∀ name, target = some name → name ∈ rules.names) {outcome : Outcome}
  (hok : (buildRules (run environment) "." rules target false d).result = .ok outcome)
include hd htarget hok

/-- **A dry run foresees a build that copies.** -/
theorem Placed.dry_run_foresees_copies : (buildRules (run environment) "." rules target true d).result =
    .ok { outcome with report := ⟨outcome.report.results.map StepResult.foreseen⟩ } :=
  dry_run_foresees_on_disk hd htarget h.legible (h.keepsNames_of_mem_buildCalls hargument hcopies hleads) hok

/-- **It builds what has something stale below it.** -/
theorem Placed.mem_built_iff_copies {name : Name} : name ∈ outcome.report.built ↔
    (∃ t ∈ outcome.plan.steps, t.name = name) ∧ rules.StaleBelow "." (Store.ofView "." d rules.names) name :=
  mem_built_iff_on_disk hd htarget h.legible (h.keepsNames_of_mem_buildCalls hargument hcopies hleads) hok

end

end Disk

end Rebuild
