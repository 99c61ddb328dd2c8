import Rebuild.Proofs.Build.Producing

/-!
# Histories of files

Files are written and removed by hand, and builds are made, any of which may fail or be a dry run. Between builds
nothing is remembered but the files and their times. Yet in whatever order all this happens, a target that is current
holds what its dependencies hold now (`Faithful`, `faithful_history`), as long as no output is written by hand.
-/

namespace Rebuild

/-- What can happen to the files that a build works on. -/
inductive Action where
  /-- A file is written by hand. -/
  | write (path : String) (content : ByteArray)
  /-- A file is removed by hand. -/
  | remove (path : String)
  /-- A build is made, in which the commands behave in some way. -/
  | build (rehearsal : Rehearsal) (target : Option Name) (dryRun : Bool)

namespace Action

/-- No output is written by hand, and no command follows a script. -/
def Admissible (rules : RuleSet) (root : String) : Action → Prop
  | .write path _ => ∀ t ∈ rules.targets, Path.normal path ≠ Path.normal (Path.join root t.name)
  | .remove _ => True
  | .build rehearsal _ _ => ∀ name, (rehearsal name).IsPlain

/-- The files after an action. -/
def run (rules : RuleSet) (root : String) (s : Store) : Action → Store
  | .write path content => s.write path content
  | .remove path => s.remove path
  | .build rehearsal target dryRun => (buildRules rehearsal.runner root rules target dryRun s).world

end Action

/-- The files after some actions, where there was no file before. -/
def history (rules : RuleSet) (root : String) (actions : List Action) : Store :=
  actions.foldl (Action.run rules root) .empty

/-! ## What the times say about the contents -/

open Rehearsal (contents)

/-- A target holds what its dependencies hold, one after the other. -/
def Target.Holds (t : Target) (root : String) (s : Store) : Prop :=
  ∃ content, s.content? (Path.join root t.name) = some content ∧ contents s root t.deps = .ok content

/-- No file is later than the clock, and every current target holds what its dependencies hold. -/
structure Faithful (rules : RuleSet) (root : String) (s : Store) : Prop where
  clocked : s.Clocked
  holds : ∀ t ∈ rules.targets, t.Current root s → t.Holds root s

variable {rules : RuleSet} {root : String} {s s' : Store} {t : Target}

theorem Target.Holds.congr (h : t.Holds root s) (hname : s'.fileOf? root t.name = s.fileOf? root t.name)
    (hdeps : ∀ dep ∈ t.deps, s'.fileOf? root dep = s.fileOf? root dep) : t.Holds root s' := by
  obtain ⟨content, hcontent, hread⟩ := h
  refine ⟨content, (congrArg (Option.map File.content) hname).trans hcontent, ?_⟩
  rw [← hread]
  exact Rehearsal.contents_congr fun dep hdep => congrArg (Option.map File.content) (hdeps dep hdep)

theorem faithful_empty (rules : RuleSet) (root : String) : Faithful rules root .empty where
  clocked := Store.clocked_empty
  holds := by
    rintro t _ ⟨output, ho, _⟩
    rw [Store.fileOf?, Store.get?_empty] at ho
    cases ho

namespace Faithful

/-- Where the files of a target are as they were, it still holds what its dependencies hold if it is current. -/
theorem holds_of_same (h : Faithful rules root s) (ht : t ∈ rules.targets) (hcurrent : t.Current root s')
    (hname : s'.fileOf? root t.name = s.fileOf? root t.name)
    (hdeps : ∀ dep ∈ t.deps, s'.fileOf? root dep = s.fileOf? root dep) : t.Holds root s' :=
  (h.holds t ht (hcurrent.congr hname.symm fun dep hdep => (hdeps dep hdep).symm)).congr hname hdeps

/-- After a write elsewhere a target is current only if the write was to none of its dependencies. -/
theorem holds_write (h : Faithful rules root s) (ht : t ∈ rules.targets) {path : String} {content : ByteArray}
    (hpath : Path.normal path ≠ Path.normal (Path.join root t.name))
    (hcurrent : t.Current root (s.write path content)) : t.Holds root (s.write path content) := by
  have hname : (s.write path content).fileOf? root t.name = s.fileOf? root t.name := by
    rw [Store.fileOf?, Store.get?_write, if_neg hpath]; rfl
  refine h.holds_of_same ht hcurrent hname fun dep hdep => ?_
  obtain ⟨output, ho, hall⟩ := hcurrent
  obtain ⟨file, hfile, hle⟩ := hall dep hdep
  rw [hname] at ho
  rw [Store.fileOf?, Store.get?_write] at hfile ⊢
  split at hfile
  · -- the write would be later than the output
    cases hfile
    exact absurd (Nat.le_trans hle (h.clocked _ output ho)) (Nat.not_succ_le_self _)
  · next hne => rw [if_neg hne]; rfl

/-- Writing by hand what is no output leaves the current targets as they are. -/
theorem write (h : Faithful rules root s) {path : String}
    (hpath : ∀ t ∈ rules.targets, Path.normal path ≠ Path.normal (Path.join root t.name)) (content : ByteArray) :
    Faithful rules root (s.write path content) where
  clocked := h.clocked.write path content
  holds := fun t ht => h.holds_write ht (hpath t ht)

/-- After a removal a target is current only if the removal was of none of its files. -/
theorem remove (h : Faithful rules root s) (path : String) : Faithful rules root (s.remove path) where
  clocked := h.clocked.remove path
  holds := by
    intro t ht hcurrent
    have hsame : ∀ name, ((s.remove path).fileOf? root name).isSome →
        (s.remove path).fileOf? root name = s.fileOf? root name := by
      intro name hthere
      rw [Store.fileOf?, Store.get?_remove] at hthere ⊢
      split at hthere
      · cases hthere
      · next hne => rw [if_neg hne]; rfl
    obtain ⟨output, ho, hall⟩ := id hcurrent
    refine h.holds_of_same ht hcurrent (hsame t.name (by rw [ho]; rfl)) fun dep hdep => ?_
    obtain ⟨file, hfile, _⟩ := hall dep hdep
    exact hsame dep (by rw [hfile]; rfl)

/-- A command that writes its target writes what its dependencies hold. -/
theorem command (h : Faithful rules root s) (hd : rules.Distinct root) (ht : t ∈ rules.targets)
    (hself : t.name ∉ t.deps) {content : ByteArray} (hc : contents s root t.deps = .ok content) :
    Faithful rules root (s.write (Path.join root t.name) content) where
  clocked := h.clocked.write _ content
  holds := by
    intro u hu hcurrent
    have hname : t.name ∈ rules.names := RuleSet.name_mem_names ht
    by_cases he : t.name = u.name
    · obtain rfl := RuleSet.eq_of_name_eq ht hu he
      refine ⟨content, ?_, ?_⟩
      · show Option.map File.content ((s.write _ content).fileOf? root t.name) = some content
        rw [hd.fileOf?_write s content hname hname, if_pos rfl]
        rfl
      · rw [← hc]
        refine Rehearsal.contents_congr fun dep hdep => congrArg (Option.map File.content) ?_
        show (s.write _ content).fileOf? root dep = s.fileOf? root dep
        have hne : t.name ≠ dep := fun he => hself (he ▸ hdep)
        rw [hd.fileOf?_write s content hname (RuleSet.dep_mem_names ht hdep), if_neg hne]
    · exact h.holds_write hu (fun hpath => he (hd _ hname _ (RuleSet.name_mem_names hu) hpath)) hcurrent

/-- A step keeps what the times say, whether it fails or not. -/
theorem step (h : Faithful rules root s) (hd : rules.Distinct root) (ht : t ∈ rules.targets) (hself : t.name ∉ t.deps)
    {r : Rehearsal} (hr : (r t.name).IsPlain) (dryRun : Bool) (rebuilt : NameSet) :
    Faithful rules root (Build.runStep r.runner root dryRun rebuilt s t).world := by
  have hrun : Faithful rules root (r.runner (t.invocation root) s).2 := by
    show Faithful rules root (Rehearsal.run (r t.name) (t.invocation root) s).2
    rcases Rehearsal.run_cases hr (t.invocation root) s with he | ⟨content, hc, he⟩
    · rw [he]; exact h
    · rw [he]; exact h.command hd ht hself hc
  have hcase := Build.stepCase r.runner root dryRun rebuilt s t
  generalize Build.runStep r.runner root dryRun rebuilt s t = step at hcase
  cases hcase with
  | missing => exact h
  | current => exact h
  | planned => exact h
  | failed => exact hrun
  | built => exact hrun

/-- So do steps, up to the first that fails. -/
theorem steps (hd : rules.Distinct root) {r : Rehearsal} (hr : ∀ name, (r name).IsPlain) (dryRun : Bool)
    {ts : List Target} : ∀ {done : List Name} {rebuilt : NameSet} {s : Store}, Faithful rules root s →
      rules.Orderly done ts → Faithful rules root (Build.runSteps r.runner root dryRun rebuilt s ts).world := by
  induction ts with
  | nil => intro done rebuilt s h _; exact h
  | cons t ts ih =>
    intro done rebuilt s h ho
    have hnext := h.step hd ho.1 ho.name_not_mem_deps (hr t.name) dryRun rebuilt
    cases hstep : (Build.runStep r.runner root dryRun rebuilt s t).result with
    | error failure => rw [Build.runSteps_of_error hstep]; exact hnext
    | ok result => rw [Build.runSteps_of_ok hstep]; exact ih hnext ho.2.2.2

theorem build (h : Faithful rules root s) (hd : rules.Distinct root) {r : Rehearsal} (hr : ∀ name, (r name).IsPlain)
    (target : Option Name) (dryRun : Bool) :
    Faithful rules root (buildRules r.runner root rules target dryRun s).world := by
  cases hp : (Graph.ofRules rules).planFor root s target with
  | error failure => rw [buildRules_of_error hp]; exact h
  | ok plan => rw [buildRules_of_plan hp]; exact h.steps hd hr dryRun (Graph.orderly_of_planFor hp)

theorem action (h : Faithful rules root s) (hd : rules.Distinct root) : ∀ {a : Action}, a.Admissible rules root →
    Faithful rules root (a.run rules root s)
  | .write _ content, ha => h.write ha content
  | .remove path, _ => h.remove path
  | .build _ target dryRun, ha => h.build hd ha target dryRun

end Faithful

/-- After any history, every current target holds what its dependencies hold. -/
theorem faithful_history (hd : rules.Distinct root) {actions : List Action}
    (h : ∀ a ∈ actions, a.Admissible rules root) : Faithful rules root (history rules root actions) := by
  have key : ∀ {actions : List Action} {s : Store}, (∀ a ∈ actions, a.Admissible rules root) →
      Faithful rules root s → Faithful rules root (actions.foldl (Action.run rules root) s) := by
    intro actions
    induction actions with
    | nil => intro s _ hs; exact hs
    | cons a actions ih =>
      intro s ha hs
      obtain ⟨ha, hrest⟩ := List.forall_mem_cons.mp ha
      exact ih hrest (hs.action hd ha)
  exact key h (faithful_empty rules root)

end Rebuild
