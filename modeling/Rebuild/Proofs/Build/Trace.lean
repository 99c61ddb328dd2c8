import Mathlib.Data.List.Nodup
import Rebuild.Proofs.Build.Steps
import Rebuild.Proofs.PlanOrder
import Rebuild.Proofs.Rehearsal

/-!
# What a build does, step after step

- The commands that steps invoke are those of some of their targets, in order, each at most once
  (`exists_sublist_invoked`);
- where all steps end well, every result is settled: a command ran, ended well and was captured, or the output was
  current (`settled_of_runSteps`), and the commands invoked are those of the targets that were built
  (`map_target_invoked`);
- where they do not, one step stops the build in one of the ways that `Build.Stops` lists, after all steps before it
  have ended well (`exists_stop_of_runSteps`).

Together, for the steps of a plan: `execute_trace`. The files and the commands are arbitrary.
-/

namespace Rebuild

/-- Either a command ran, ended well and was captured, or the output was current. -/
inductive StepResult.Settled : StepResult → Prop
  | built {target : Name} {staleness : Staleness} {output : Output} (hstatus : output.status.isSuccess = true) :
    Settled ⟨target, staleness, .built, some output⟩
  | current {target : Name} : Settled ⟨target, .upToDate, .upToDate, none⟩

namespace Build

variable {σ : Type u} [FileView σ] {runner : Runner σ} {root : String} {rebuilt : NameSet} {w : σ} {t : Target}
  {ts : List Target} {r : StepResult} {rs : List StepResult} {failure : Failure}

/-! ## Commands -/

/-- A step invokes the command of its target or none. -/
theorem invoked_runStep (runner : Runner σ) (root : String) (dryRun : Bool) (rebuilt : NameSet) (w : σ) (t : Target) :
    (runStep runner root dryRun rebuilt w t).invoked = [] ∨
      (runStep runner root dryRun rebuilt w t).invoked = [t.invocation root] := by
  have hexit := stepExit runner root dryRun rebuilt w t
  generalize runStep runner root dryRun rebuilt w t = step at hexit
  cases hexit with
  | invoked => exact Or.inr rfl
  | _ => exact Or.inl rfl

/-- Steps invoke the commands of some of their targets, in order. -/
theorem exists_sublist_invoked (runner : Runner σ) (root : String) (dryRun : Bool) (rebuilt : NameSet) (w : σ)
    (ts : List Target) : ∃ called : List Target, called.Sublist ts ∧
      (runSteps runner root dryRun rebuilt w ts).invoked = called.map (·.invocation root) := by
  induction ts generalizing rebuilt w with
  | nil => exact ⟨[], .slnil, rfl⟩
  | cons t ts ih =>
    -- whether or not the step goes well, its own commands are those of none or of one target
    obtain ⟨own, hown, hstep⟩ : ∃ own : List Target, own.Sublist [t] ∧
        (runStep runner root dryRun rebuilt w t).invoked = own.map (·.invocation root) := by
      rcases invoked_runStep runner root dryRun rebuilt w t with h | h
      · exact ⟨[], List.nil_sublist _, h⟩
      · exact ⟨[t], .refl _, h⟩
    cases hresult : (runStep runner root dryRun rebuilt w t).result with
    | error failure =>
      rw [runSteps_of_error hresult]
      exact ⟨own, hown.trans (List.singleton_sublist.mpr List.mem_cons_self), hstep⟩
    | ok r =>
      obtain ⟨called, hcalled, hrest⟩ := ih (markRebuilt rebuilt r) (runStep runner root dryRun rebuilt w t).world
      rw [runSteps_of_ok hresult]
      refine ⟨own ++ called, hown.append hcalled, ?_⟩
      dsimp only
      rw [hstep, hrest, List.map_append]

/-! ## Builds that go well -/

/-- A step of a real run that ends well settles its target, and invokes its command exactly if it was built. -/
theorem settled_of_runStep (h : (runStep runner root false rebuilt w t).result = .ok r) :
    r.Settled ∧ (runStep runner root false rebuilt w t).invoked.map Invocation.target =
      if r.outcome = .built then [t.name] else [] := by
  have hexit := stepExit runner root false rebuilt w t
  generalize runStep runner root false rebuilt w t = step at h hexit
  cases hexit with
  | missing => cases h
  | unreadable => cases h
  | current => cases h; exact ⟨.current, rfl⟩
  | planned _ _ _ hdry => cases hdry
  | invoked =>
    obtain ⟨output, rfl, _, hstatus, _⟩ := exists_of_resultOfCommand_ok h
    exact ⟨.built hstatus, rfl⟩

theorem settled_of_runSteps (h : (runSteps runner root false rebuilt w ts).result = .ok rs) : ∀ r ∈ rs, r.Settled :=
  forall_of_runSteps_ok (fun _ _ _ _ hstep => (settled_of_runStep hstep).1) h

/-- The commands invoked are those of the targets that were built. -/
theorem map_target_invoked (h : (runSteps runner root false rebuilt w ts).result = .ok rs) :
    (runSteps runner root false rebuilt w ts).invoked.map Invocation.target = (Report.mk rs).built := by
  induction ts generalizing rebuilt w rs with
  | nil => cases h; rfl
  | cons t ts ih =>
    obtain ⟨r, rest, hstep, rfl, hrest⟩ := exists_of_runSteps_ok h
    rw [runSteps_of_ok hstep]
    dsimp only
    rw [List.map_append, (settled_of_runStep hstep).2, ih hrest, ← target_of_runStep hstep]
    unfold Report.built Report.withOutcome
    by_cases hbuilt : r.outcome = .built <;> simp [hbuilt]

/-- A step of a real run that ends well captures what its command ended with. -/
theorem outputs_of_runStep (h : (runStep runner root false rebuilt w t).result = .ok r) :
    (runStep runner root false rebuilt w t).invoked.map (fun i => (runner i w).1) = r.output.toList.map .ok := by
  have hexit := stepExit runner root false rebuilt w t
  generalize runStep runner root false rebuilt w t = step at h hexit
  cases hexit with
  | missing => cases h
  | unreadable => cases h
  | current => cases h; rfl
  | planned _ _ _ hdry => cases hdry
  | invoked =>
    obtain ⟨output, rfl, hend, _⟩ := exists_of_resultOfCommand_ok h
    exact congrArg ([·]) hend

/-- The outputs captured are what the commands ended with, one after the other. -/
theorem outputs_of_runSteps (h : (runSteps runner root false rebuilt w ts).result = .ok rs) :
    (calls runner root rebuilt w ts).map (fun call => (runner call.1 call.2).1) =
      (rs.filterMap StepResult.output).map .ok := by
  induction ts generalizing rebuilt w rs with
  | nil => cases h; rfl
  | cons t ts ih =>
    obtain ⟨r, rest, hstep, rfl, hrest⟩ := exists_of_runSteps_ok h
    have hfirst : [r].filterMap StepResult.output = r.output.toList := by cases hr : r.output <;> simp [hr]
    rw [calls_of_ok hstep, List.map_append, List.map_map, ih hrest, ← List.singleton_append (l := rest),
      List.filterMap_append, hfirst, List.map_append]
    exact congrArg (· ++ _) (outputs_of_runStep hstep)

/-- Settled results are of targets that were built and of targets that were current. -/
theorem perm_built_upToDate (h : ∀ r ∈ rs, r.Settled) :
    ((Report.mk rs).built ++ (Report.mk rs).upToDate).Perm (rs.map StepResult.target) := by
  have hcurrent : rs.filter (·.outcome == .upToDate) = rs.filter fun r => !(r.outcome == .built) :=
    List.filter_congr fun r hr => by cases h r hr <;> rfl
  unfold Report.built Report.upToDate Report.withOutcome
  rw [hcurrent, ← List.map_append]
  exact (List.filter_append_perm _ rs).map _

/-- A target is reported as current exactly if its command was not invoked. -/
theorem not_mem_invoked_iff (hnames : (ts.map Target.name).Nodup)
    (h : (runSteps runner root false rebuilt w ts).result = .ok rs) (ht : t ∈ ts) :
    t.name ∉ (runSteps runner root false rebuilt w ts).invoked.map Invocation.target ↔
      t.name ∈ (Report.mk rs).upToDate := by
  have htargets := targets_of_runSteps h
  have hperm := perm_built_upToDate (settled_of_runSteps h)
  have hdisjoint := List.disjoint_of_nodup_append (hperm.nodup_iff.mpr (htargets ▸ hnames))
  have hmem : t.name ∈ (Report.mk rs).built ++ (Report.mk rs).upToDate :=
    hperm.mem_iff.mpr (htargets ▸ List.mem_map_of_mem ht)
  rw [map_target_invoked h]
  exact ⟨(List.mem_append.mp hmem).resolve_left, fun hcurrent hbuilt => hdisjoint hbuilt hcurrent⟩

/-! ## Builds that stop -/

/-- The ways in which the step of a target can stop a real run: the failure, what the target's command wrote to its
error stream, the commands that the step invoked, and the world that it left. -/
inductive Stops (runner : Runner σ) (root : String) (w : σ) (t : Target) :
    Failure → String → List Invocation → σ → Prop
  /-- A dependency is not there, and those before it are. -/
  | missing {before after : List Name} {dep : Name} (hdeps : t.deps = before ++ dep :: after)
    (hbefore : ∀ d ∈ before, FileView.isThere w (Path.join root d) = true)
    (habsent : FileView.isThere w (Path.join root dep) = false) :
    Stops runner root w t (.missingSource dep) "" [] w
  /-- All dependencies are there, but the time of the target or of a dependency cannot be told. -/
  | unreadable {name : Name} {fault : FileFault}
    (hdeps : ∀ dep ∈ t.deps, FileView.isThere w (Path.join root dep) = true) (hname : name ∈ t.name :: t.deps)
    (hfault : FileView.modified w (Path.join root name) = .error fault) :
    Stops runner root w t (.unreadable fault) "" [] w
  /-- The command does not start. -/
  | notStarted {fault : StartFault} (hdeps : ∀ dep ∈ t.deps, FileView.isThere w (Path.join root dep) = true)
    (hstart : (runner (t.invocation root) w).1 = .error fault) :
    Stops runner root w t (.buildFailed t.name (.notStarted fault)) "" [t.invocation root]
      (runner (t.invocation root) w).2
  /-- The command does not end well. -/
  | ended {output : Output} (hdeps : ∀ dep ∈ t.deps, FileView.isThere w (Path.join root dep) = true)
    (hend : (runner (t.invocation root) w).1 = .ok output) (hstatus : output.status.isSuccess = false) :
    Stops runner root w t (.buildFailed t.name (.ended output)) output.stderr [t.invocation root]
      (runner (t.invocation root) w).2
  /-- The command ends well, but the output is not there. -/
  | notProduced {output : Output} (hdeps : ∀ dep ∈ t.deps, FileView.isThere w (Path.join root dep) = true)
    (hend : (runner (t.invocation root) w).1 = .ok output) (hstatus : output.status.isSuccess = true)
    (habsent : FileView.isThere (runner (t.invocation root) w).2 (Path.join root t.name) = false) :
    Stops runner root w t (.outputNotProduced t.name) "" [t.invocation root] (runner (t.invocation root) w).2

/-- The step that stops a run invokes at most the command of its target. -/
theorem Stops.eq_invocation {stderr : String} {own : List Invocation} {left : σ}
    (h : Stops runner root w t failure stderr own left) : ∀ i ∈ own, i = t.invocation root := by
  cases h <;> simp

/-- What a run that was stopped has invoked are commands of the steps up to this one. -/
theorem Stops.exists_of_mem {stderr : String} {own : List Invocation} {start left : σ}
    (h : Stops runner root start t failure stderr own left) {before : List Target} {i : Invocation}
    (hi : i ∈ (runSteps runner root false rebuilt w before).invoked ++ own) :
    ∃ u ∈ before ++ [t], i = u.invocation root := by
  rcases List.mem_append.mp hi with hi | hi
  · obtain ⟨u, hu, he⟩ := exists_of_mem_invoked hi
    exact ⟨u, List.mem_append_left _ hu, he⟩
  · exact ⟨t, List.mem_append_right _ List.mem_cons_self, h.eq_invocation i hi⟩

theorem stops_of_runStep (h : (runStep runner root false rebuilt w t).result = .error failure) :
    Stops runner root w t failure failure.stderr (runStep runner root false rebuilt w t).invoked
      (runStep runner root false rebuilt w t).world := by
  have hthere (hnone : missingSource? root false rebuilt w t = none) :
      ∀ dep ∈ t.deps, FileView.isThere w (Path.join root dep) = true := fun dep hdep =>
    (missingSource?_eq_none_iff.mp hnone dep hdep).resolve_right fun hdry => Bool.false_ne_true hdry.1
  have hexit := stepExit runner root false rebuilt w t
  generalize runStep runner root false rebuilt w t = step at h hexit
  cases hexit with
  | missing hdep =>
    cases h
    obtain ⟨before, after, hdeps, hbefore, habsent⟩ := missingSource?_eq_some hdep
    exact .missing hdeps hbefore habsent
  | unreadable hdeps hfault =>
    cases h
    obtain ⟨name, hname, hfault⟩ := Staleness.exists_of_decide_error hfault
    exact .unreadable (hthere hdeps) hname hfault
  | current => cases h
  | planned _ _ _ hdry => cases hdry
  | invoked hdeps =>
    have hblame := blames_of_resultOfCommand h
    generalize hend : (runner (t.invocation root) w).1 = ended at hblame
    cases hblame with
    | notStarted => exact .notStarted (hthere hdeps) hend
    | ended hstatus => exact .ended (hthere hdeps) hend hstatus
    | notProduced hstatus habsent => exact .notProduced (hthere hdeps) hend hstatus habsent

/-- Steps that fail are stopped by one of them, after those before it have ended well. -/
theorem exists_stop_of_runSteps (h : (runSteps runner root false rebuilt w ts).result = .error failure) :
    ∃ before t after rs own, ts = before ++ t :: after ∧
      (runSteps runner root false rebuilt w before).result = .ok rs ∧
      (runSteps runner root false rebuilt w ts).invoked =
        (runSteps runner root false rebuilt w before).invoked ++ own ∧
      Stops runner root (runSteps runner root false rebuilt w before).world t failure failure.stderr own
        (runSteps runner root false rebuilt w ts).world := by
  obtain ⟨before, t, after, rs, rfl, hbefore, hfail⟩ := exists_of_runSteps_error h
  rw [runSteps_append_cons_of_error hbefore hfail]
  exact ⟨before, t, after, rs, _, rfl, hbefore, rfl, stops_of_runStep hfail⟩

/-! ## Plans -/

theorem execute_eq_ok {plan : Plan} {report : Report} :
    (execute runner root false w plan).result = .ok report ↔
      (runSteps runner root false ∅ w plan.steps).result = .ok report.results := by
  show (runSteps runner root false ∅ w plan.steps).result.map Report.mk = _ ↔ _
  obtain ⟨results⟩ := report
  cases (runSteps runner root false ∅ w plan.steps).result <;> simp [Except.map]

theorem execute_eq_error {plan : Plan} :
    (execute runner root false w plan).result = .error failure ↔
      (runSteps runner root false ∅ w plan.steps).result = .error failure := by
  show (runSteps runner root false ∅ w plan.steps).result.map Report.mk = _ ↔ _
  cases (runSteps runner root false ∅ w plan.steps).result <;> simp [Except.map]

end Build

/-- **What a build does.** Whatever the files are and whatever the commands do, a build of a plan invokes the commands
of some of its steps, in order, each at most once and as its rule says. If it ends well, each step has a result, in
order; the commands invoked are those of the targets that were built, and their outputs were captured; and each target
was either built or current. If it does not, one step stops it: all steps before it have ended well, and no command of a
later one is invoked. -/
theorem execute_trace {σ : Type u} [FileView σ] (runner : Runner σ) (root : String) (rules : RuleSet)
    (roots : List Name) (plan : Plan) (w : σ)
    (h : ((Graph.ofRules rules).closure roots).map (Graph.ofRules rules).planOfClosure = .ok plan) :
    let run := Build.execute runner root false w plan
    (∃ called : List Target, called.Sublist plan.steps ∧ run.invoked = called.map (·.invocation root)) ∧
    (run.invoked.map Invocation.target).Nodup ∧
    (∀ i ∈ run.invoked, ∃ t ∈ rules.targets, i = ⟨t.name, t.deps, t.program, t.args, root⟩) ∧
    (∀ report, run.result = .ok report →
      report.results.map StepResult.target = plan.steps.map Target.name ∧
      run.invoked.map Invocation.target = report.built ∧
      (∀ r ∈ report.results, r.Settled) ∧
      (Build.calls runner root ∅ w plan.steps).map (fun call => (runner call.1 call.2).1) =
        (report.results.filterMap StepResult.output).map .ok ∧
      (report.built ++ report.upToDate).Perm (plan.steps.map Target.name)) ∧
    ∀ failure, run.result = .error failure → ∃ before t after report own,
      plan.steps = before ++ t :: after ∧
      let earlier := Build.execute runner root false w ⟨before, plan.closure⟩
      earlier.result = .ok report ∧ report.results.map StepResult.target = before.map Target.name ∧
      run.invoked = earlier.invoked ++ own ∧
      Build.Stops runner root earlier.world t failure failure.stderr own run.world ∧
      ∀ u ∈ after, ∀ i ∈ run.invoked, i.target ≠ u.name := by
  intro run
  have hplan := Graph.planFrom_of_map h
  obtain ⟨called, hcalled, hinvoked⟩ := Build.exists_sublist_invoked runner root false ∅ w plan.steps
  have hinvoked : run.invoked = called.map (·.invocation root) := hinvoked
  have hnames : run.invoked.map Invocation.target = called.map Target.name := by
    rw [hinvoked, List.map_map]
    rfl
  refine ⟨⟨called, hcalled, hinvoked⟩, ?_, fun i hi => ?_, fun report hr => ?_, fun failure hr => ?_⟩
  · rw [hnames]
    exact hplan.nodup_names.sublist (hcalled.map _)
  · rw [hinvoked] at hi
    obtain ⟨t, ht, rfl⟩ := List.mem_map.mp hi
    exact ⟨t, (hplan.mem_steps.mp (hcalled.subset ht)).1, rfl⟩
  · have hr := Build.execute_eq_ok.mp hr
    have htargets := Build.targets_of_runSteps hr
    refine ⟨htargets, Build.map_target_invoked hr, Build.settled_of_runSteps hr, Build.outputs_of_runSteps hr, ?_⟩
    exact htargets ▸ Build.perm_built_upToDate (Build.settled_of_runSteps hr)
  · obtain ⟨before, t, after, rs, own, hsteps, hbefore, hown, hstops⟩ :=
      Build.exists_stop_of_runSteps (Build.execute_eq_error.mp hr)
    have hnot : ∀ u ∈ after, ∀ i ∈ run.invoked, i.target ≠ u.name := by
      intro u hu i hi he
      rw [show run.invoked = _ from hown] at hi
      obtain ⟨earlier, hearlier, rfl⟩ := hstops.exists_of_mem hi
      have he : earlier.name = u.name := he
      have hnodup := hplan.nodup_names
      rw [hsteps, List.append_cons, List.map_append] at hnodup
      exact List.disjoint_of_nodup_append hnodup (List.mem_map_of_mem hearlier) (he ▸ List.mem_map_of_mem hu)
    exact ⟨before, t, after, ⟨rs⟩, own, hsteps, Build.execute_eq_ok.mpr hbefore, Build.targets_of_runSteps hbefore,
      hown, hstops, hnot⟩

/-- The plan for `C` in the chain of rules. -/
def Plan.chain : Plan :=
  ⟨RuleSet.chain.targets, ["A", "B", "C"]⟩

/-- Both targets are built if the commands do what is usual; if that of `C` fails, `C` stops the build after `B`. -/
theorem execute_trace_chain :
    let s := Store.empty.write "./A" "text".toUTF8
    let commands := Rehearsal.usual.set "C" (.fail 3 "no space left\n")
    let run := Build.execute Rehearsal.usual.runner "." false s .chain
    let stopped := Build.execute commands.runner "." false s .chain
    ((Graph.ofRules .chain).closure ["C"]).map (Graph.ofRules .chain).planOfClosure = .ok .chain ∧
      (∃ report, run.result = .ok report ∧ report.results.map StepResult.target = ["B", "C"] ∧
        report.built = ["B", "C"] ∧ run.invoked.map Invocation.target = report.built) ∧
      ∃ failure before t after own, stopped.result = .error failure ∧
        RuleSet.chain.targets = before ++ t :: after ∧ failure.stderr = "no space left\n" ∧
        Build.Stops commands.runner "." (Build.execute commands.runner "." false s ⟨before, Plan.chain.closure⟩).world t
          failure failure.stderr own stopped.world := by
  intro s commands run stopped
  have hfound : (((Graph.ofRules .chain).closure ["C"]).map (Graph.ofRules .chain).planOfClosure).toOption =
      some .chain := by decide +kernel
  have hplan : ((Graph.ofRules .chain).closure ["C"]).map (Graph.ofRules .chain).planOfClosure = .ok .chain := by
    cases hp : ((Graph.ofRules .chain).closure ["C"]).map (Graph.ofRules .chain).planOfClosure with
    | error failure => rw [hp] at hfound; cases hfound
    | ok plan => rw [hp] at hfound; exact congrArg _ (Option.some.inj hfound)
  have hbuilt : run.result.toOption.map Report.built = some ["B", "C"] := by decide +kernel
  have hstderr : (match stopped.result with | .ok _ => none | .error failure => some failure.stderr) =
      some "no space left\n" := by decide +kernel
  refine ⟨hplan, ?_, ?_⟩
  · obtain ⟨_, _, _, hok, _⟩ := execute_trace Rehearsal.usual.runner "." .chain ["C"] .chain s hplan
    cases hr : run.result with
    | error failure => rw [hr] at hbuilt; cases hbuilt
    | ok report =>
      rw [hr] at hbuilt
      obtain ⟨htargets, hinvoked, _⟩ := hok report hr
      exact ⟨report, rfl, htargets, Option.some.inj hbuilt, hinvoked⟩
  · obtain ⟨_, _, _, _, herror⟩ := execute_trace commands.runner "." .chain ["C"] .chain s hplan
    cases hr : stopped.result with
    | ok report => rw [hr] at hstderr; cases hstderr
    | error failure =>
      rw [hr] at hstderr
      obtain ⟨before, t, after, report, own, hsteps, _, _, _, hstops, _⟩ := herror failure hr
      exact ⟨failure, before, t, after, own, rfl, hsteps, Option.some.inj hstderr, hstops⟩

end Rebuild
