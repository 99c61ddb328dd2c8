import Rebuild.Proofs.Build.Step
import Rebuild.Proofs.Build.Trace

/-!
# The target whose command failed, in the next build

A build remembers nothing of the one before it, and a failed command may have left a file in place of its output. So the
next build judges the target by the files that are there when its turn comes (`mem_upToDate_iff`): it invokes the
command again unless the target passes for current (`Target.Passes`, `failed_target_repeated`). A command that writes a
part of its output and then fails is not invoked again (`half_written_target_passes`).
-/

namespace Rebuild

variable {σ : Type u} [FileView σ] {runner : Runner σ} {root : String} {rebuilt : NameSet} {w : σ} {t : Target}

/-- The output of a target is there, and none of its dependencies was rebuilt or is later than the output. -/
def Target.Passes (t : Target) (root : String) (rebuilt : List Name) (w : σ) : Prop :=
  ∃ time, FileView.modified w (Path.join root t.name) = .ok (some time) ∧
    ∀ dep ∈ t.deps, dep ∉ rebuilt ∧ Staleness.NoLater root w time dep

namespace Build

variable {ts before after : List Target} {r : StepResult} {rs rs₁ rs₂ : List StepResult}

/-! ## Where a target's turn comes -/

/-- The marks of a real run that ended well are those of the targets that were built. -/
theorem mem_marks_iff_mem_built (h : ∀ r ∈ rs, r.Settled) {name : Name} :
    name ∈ marks ∅ rs ↔ name ∈ (Report.mk rs).built := by
  have houtcome : ∀ r ∈ rs, r.outcome ≠ .upToDate ↔ r.outcome = .built := fun r hr => by
    cases h r hr <;> simp
  rw [mem_marks, Report.built, Report.mem_withOutcome, or_iff_right (by simp)]
  exact exists_congr fun r => and_congr_right fun hr => and_congr (houtcome r hr) eq_comm

/-- A target of a run that ends well is reported as current exactly if it passes for current when its turn comes. -/
theorem mem_upToDate_iff (hnames : ((before ++ t :: after).map Target.name).Nodup)
    (h : (runSteps runner root false ∅ w (before ++ t :: after)).result = .ok rs) :
    ∃ rs₁, (runSteps runner root false ∅ w before).result = .ok rs₁ ∧
      (t.name ∈ (Report.mk rs).upToDate ↔
        t.Passes root (Report.mk rs₁).built (runSteps runner root false ∅ w before).world) := by
  obtain ⟨rs₁, _, hbefore, -, hreported⟩ := mem_upToDate_iff_decide hnames h
  refine ⟨rs₁, hbefore, ?_⟩
  rw [hreported, Staleness.decide_eq_upToDate]
  simp only [Target.Passes, ← mem_marks_iff_mem_built (settled_of_runSteps hbefore)]

end Build

/-! ## The build that fails -/

variable {rules : RuleSet} {target : Option Name} {failure : Failure}

/-- Where a request has no plan, no command is to blame. -/
theorem Graph.culprit?_of_planFor (h : (Graph.ofRules rules).planFor root w target = .error failure) :
    failure.culprit? = none := by
  have hclosure : ∀ {roots : List Name}, (Graph.ofRules rules).closure roots = .error failure →
      failure.culprit? = none := fun hc => by
    obtain ⟨path, _, rfl⟩ := closure_eq_error.mp hc
    rfl
  cases target with
  | none => exact hclosure (map_planOfClosure_eq_error.mp h)
  | some name =>
    change ((Graph.ofRules rules).resolve root w name).map _ = .error failure at h
    unfold resolve at h
    split at h
    · cases h; rfl
    · split at h
      · cases h; rfl
      · exact hclosure (map_planOfClosure_eq_error.mp h)

/-- A build that fails with a command that ran has a plan with the target of this command. -/
theorem exists_mem_steps_of_buildFailed {name : Name} {output : Output}
    (h : (buildRules runner root rules target false w).result = .error (.buildFailed name (.ended output))) :
    ∃ plan, (Graph.ofRules rules).planFor root w target = .ok plan ∧ ∃ t ∈ plan.steps, t.name = name := by
  rcases buildRules_error_cases h with hp | ⟨plan, hp, hr⟩
  · cases Graph.culprit?_of_planFor hp
  · obtain ⟨before, t, after, _, _, hsteps, _, _, hstops⟩ := Build.exists_stop_of_runSteps hr
    generalize (Build.runSteps runner root false ∅ w plan.steps).world = left at hstops
    cases hstops
    exact ⟨plan, hp, t, by rw [hsteps]; simp, rfl⟩

/-! ## The build after it -/

/-- **A target whose command failed is judged again by the files.** If a build fails because the command of a target
ended unsuccessfully, then a build of the same request, from the files that this one left, does not succeed without
invoking the command again unless the target passes for current when its turn comes: exactly then it is reported as
current. If no command was invoked before, what decides are the files that the failed build left. -/
theorem failed_target_repeated {σ : Type u} [FileView σ] (runner runner' : Runner σ) (root : String) (rules : RuleSet)
    (target : Option Name) (w : σ) (name : Name) (output : Output)
    (h : (buildRules runner root rules target false w).result = .error (.buildFailed name (.ended output))) :
    let failed := buildRules runner root rules target false w
    let again := buildRules runner' root rules target false failed.world
    ∀ outcome, again.result = .ok outcome →
      ∃ before t after report, outcome.plan.steps = before ++ t :: after ∧ t.name = name ∧
        let earlier := Build.execute runner' root false failed.world ⟨before, outcome.plan.closure⟩
        earlier.result = .ok report ∧
        (name ∉ again.invoked.map Invocation.target ↔ t.Passes root report.built earlier.world) ∧
        (name ∈ outcome.report.upToDate ↔ t.Passes root report.built earlier.world) ∧
        (earlier.invoked = [] → report.built = [] ∧ earlier.world = failed.world) := by
  intro failed again outcome hagain
  obtain ⟨plan, hplan, t, ht, rfl⟩ := exists_mem_steps_of_buildFailed h
  obtain ⟨hfor, hrun, _⟩ := exists_of_buildRules_ok hagain
  -- the plan has a step, so it is the same for the files that the failed build left
  obtain rfl : plan = outcome.plan :=
    Except.ok.inj ((Graph.planFor_eq_of_mem hplan ht failed.world).symm.trans hfor)
  have hnames := (Graph.planFrom_of_planFor hfor).nodup_names
  have hcurrent : t.name ∉ again.invoked.map Invocation.target ↔ t.name ∈ outcome.report.upToDate := by
    rw [show again.invoked = _ from congrArg Run.invoked (buildRules_of_plan hfor)]
    exact Build.not_mem_invoked_iff hnames hrun ht
  obtain ⟨before, after, hsteps⟩ := List.append_of_mem ht
  rw [hsteps] at hnames hrun
  obtain ⟨rs, hbefore, hpasses⟩ := Build.mem_upToDate_iff hnames hrun
  refine ⟨before, t, after, ⟨rs⟩, hsteps, rfl, Build.execute_eq_ok.mpr hbefore, hcurrent.trans hpasses, hpasses,
    fun hnone => ⟨?_, Build.world_runSteps_of_invoked_nil hnone⟩⟩
  rw [← Build.map_target_invoked hbefore, show (Build.runSteps _ _ _ _ _ _).invoked = [] from hnone]
  rfl

/-- A command of `B` that writes this, and then ends with an exit code. -/
def Rehearsal.spoiled (edits : List Store.Edit) : Rehearsal :=
  Rehearsal.usual.set "B" (.script edits (.ok ⟨.exited 1, "", "no space left"⟩))

/-- Where the failed command left an output that is older than a dependency, the usual command is invoked. -/
theorem failed_target_repeated_older :
    let s := Store.empty.write "A" "text".toUTF8
    let commands := Rehearsal.spoiled [.write "B" "half".toUTF8, .stamp "B" 0]
    let failed := buildRules commands.runner "." .chain (some "B") false s
    let again := buildRules Rehearsal.usual.runner "." .chain (some "B") false failed.world
    failed.result = .error (.buildFailed "B" (.ended ⟨.exited 1, "", "no space left"⟩)) ∧
      ∃ outcome before t after report, again.result = .ok outcome ∧ outcome.plan.steps = before ++ t :: after ∧
        t.name = "B" ∧ "B" ∈ again.invoked.map Invocation.target ∧ "B" ∉ outcome.report.upToDate ∧
        ¬ t.Passes "." (Report.built report)
          (Build.execute Rehearsal.usual.runner "." false failed.world ⟨before, outcome.plan.closure⟩).world := by
  intro s commands failed again
  have hfailure : (match failed.result with | .ok _ => none | .error failure => some failure) =
      some (.buildFailed "B" (.ended ⟨.exited 1, "", "no space left"⟩)) := by decide +kernel
  have hinvoked : again.invoked.map Invocation.target = ["B"] := by decide +kernel
  have hok : again.result.toOption.isSome := by decide +kernel
  cases hf : failed.result with
  | ok outcome => rw [hf] at hfailure; cases hfailure
  | error failure =>
    rw [hf] at hfailure
    obtain rfl := Option.some.inj hfailure
    cases ha : again.result with
    | error failure => rw [ha] at hok; cases hok
    | ok outcome =>
      obtain ⟨before, t, after, report, hsteps, hname, _, hagain, hreported, _⟩ :=
        failed_target_repeated commands.runner Rehearsal.usual.runner "." .chain (some "B") s "B" _ hf outcome ha
      have hmem : "B" ∈ again.invoked.map Invocation.target := by rw [hinvoked]; decide
      have hnot := fun hpasses => hagain.mpr hpasses hmem
      exact ⟨rfl, outcome, before, t, after, report, rfl, hsteps, hname, hmem, fun hup => hnot (hreported.mp hup), hnot⟩

/-- Where the failed command left a part of its output, the same request succeeds without invoking it again. -/
theorem half_written_target_passes :
    let s := Store.empty.write "A" "text".toUTF8
    let commands := Rehearsal.spoiled [.write "B" "half".toUTF8]
    let failed := buildRules commands.runner "." .chain (some "B") false s
    let again := buildRules commands.runner "." .chain (some "B") false failed.world
    failed.result = .error (.buildFailed "B" (.ended ⟨.exited 1, "", "no space left"⟩)) ∧
      failed.invoked.map Invocation.target = ["B"] ∧
      ∃ outcome, again.result = .ok outcome ∧ again.invoked = [] ∧ outcome.report.upToDate = ["B"] := by
  intro s commands failed again
  have hfailure : (match failed.result with | .ok _ => none | .error failure => some failure) =
      some (.buildFailed "B" (.ended ⟨.exited 1, "", "no space left"⟩)) := by decide +kernel
  have hinvoked : failed.invoked.map Invocation.target = ["B"] := by decide +kernel
  have hnone : again.invoked = [] := by decide +kernel
  have hreported : again.result.toOption.map (·.report.upToDate) = some ["B"] := by decide +kernel
  cases hf : failed.result with
  | ok outcome => rw [hf] at hfailure; cases hfailure
  | error failure =>
    rw [hf] at hfailure
    cases ha : again.result with
    | error failure => rw [ha] at hreported; cases hreported
    | ok outcome =>
      rw [ha] at hreported
      exact ⟨congrArg _ (Option.some.inj hfailure), hinvoked, outcome, rfl, hnone, Option.some.inj hreported⟩

end Rebuild
