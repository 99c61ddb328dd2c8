import Rebuild.Proofs.Build.Trace

/-!
# What is rebuilt, and what depends on it

Commands may do to the files whatever they like: nothing here rests on the times of files, but only on the order of the
plan and on the names that a run marks as rebuilt.

- Where a command is invoked, its dependencies are there, and the steps before it have ended well
  (`Build.exists_of_calls`); among these steps are all rules that its target depends on (`PlanFrom.mem_before`);
- a target is found current only if none of its dependencies was rebuilt (`Build.dep_not_mem_rebuilt`), hence nothing
  that it depends on was (`Build.not_mem_rebuilt_of_dependsOn`).

Together: `rebuilding_spreads`.
-/

namespace Rebuild

/-- What becomes of a stale target in a run that goes well. -/
def StepOutcome.ofStale (dryRun : Bool) : StepOutcome :=
  if dryRun then .wouldBuild else .built

namespace Graph.PlanFrom

variable {rules : RuleSet} {roots : List Name} {plan : Plan}

/-- The rules that a step depends on are steps before it. -/
theorem mem_before (h : PlanFrom rules roots plan) {before after : List Target} {t u : Target}
    (hsteps : plan.steps = before ++ t :: after) (hu : u ∈ rules.targets)
    (hd : (ofRules rules).DependsOn t.name u.name) : u ∈ before := by
  have hsplit := h.steps.symm.trans hsteps
  obtain ⟨first, rest, hclosure, rfl, hrest⟩ := List.filterMap_eq_append_iff.mp hsplit
  obtain ⟨leaves, name, last, rfl, hleaves, hname, -⟩ := List.filterMap_eq_cons_iff.mp hrest
  rw [← List.append_assoc, ← RuleSet.name_of_get? hname] at hclosure
  rcases List.mem_append.mp ((buildOrder_of_closure h.closure).mem_before hclosure hd) with hmem | hmem
  · exact List.mem_filterMap.mpr ⟨u.name, hmem, RuleSet.get?_of_mem hu⟩
  · -- the names between the two rules have none
    have hleaf := hleaves u.name hmem
    rw [RuleSet.get?_of_mem hu] at hleaf
    cases hleaf

end Graph.PlanFrom

namespace Build

variable {σ : Type u} [FileView σ] {runner : Runner σ} {root : String} {dryRun : Bool} {rebuilt : NameSet} {w : σ}
  {t : Target} {ts : List Target}

/-! ## Where a command is invoked -/

/-- A step that invokes a command finds all dependencies there. -/
theorem isThere_of_invoked (h : (runStep runner root false rebuilt w t).invoked ≠ []) :
    ∀ dep ∈ t.deps, FileView.isThere w (Path.join root dep) = true := by
  have hexit := stepExit runner root false rebuilt w t
  generalize runStep runner root false rebuilt w t = step at h hexit
  cases hexit with
  | invoked hdeps =>
    intro dep hdep
    exact (missingSource?_eq_none_iff.mp hdeps dep hdep).resolve_right fun hdry => Bool.false_ne_true hdry.1
  | _ => exact absurd rfl h

/-- A command of some steps is that of the first step, or one of the others after this step has ended well. -/
theorem calls_cons_cases {earlier later : List (Invocation × σ)} {call : Invocation × σ}
    (h : calls runner root rebuilt w (t :: ts) = earlier ++ call :: later) :
    (earlier = [] ∧ call = (t.invocation root, w) ∧ (runStep runner root false rebuilt w t).invoked ≠ []) ∨
      ∃ r rest, (runStep runner root false rebuilt w t).result = .ok r ∧
        earlier.map Prod.fst = (runStep runner root false rebuilt w t).invoked ++ rest.map Prod.fst ∧
        calls runner root (markRebuilt rebuilt r) (runStep runner root false rebuilt w t).world ts =
          rest ++ call :: later := by
  rcases invoked_runStep runner root false rebuilt w t with hown | hown
  · cases hstep : (runStep runner root false rebuilt w t).result with
    | error failure => rw [calls, hown, hstep] at h; simp at h
    | ok r =>
      rw [calls_of_ok hstep, hown] at h
      exact Or.inr ⟨r, earlier, rfl, by rw [hown]; rfl, h⟩
  · cases earlier with
    | nil =>
      rw [calls, hown] at h
      exact Or.inl ⟨rfl, (List.cons.inj h).1.symm, by rw [hown]; exact List.cons_ne_nil _ _⟩
    | cons first rest =>
      cases hstep : (runStep runner root false rebuilt w t).result with
      | error failure => rw [calls, hown, hstep] at h; simp at h
      | ok r =>
        rw [calls_of_ok hstep, hown] at h
        obtain ⟨rfl, hrest⟩ := List.cons.inj h
        exact Or.inr ⟨r, rest, rfl, by rw [hown]; rfl, hrest⟩

/-- A command is invoked after steps that have ended well, in the world that they left, and where all dependencies of
its target are there. -/
theorem exists_of_calls {earlier later : List (Invocation × σ)} {call : Invocation × σ}
    (h : calls runner root rebuilt w ts = earlier ++ call :: later) :
    ∃ before t after rs, ts = before ++ t :: after ∧
      (runSteps runner root false rebuilt w before).result = .ok rs ∧
      (runSteps runner root false rebuilt w before).invoked = earlier.map Prod.fst ∧
      call = (t.invocation root, (runSteps runner root false rebuilt w before).world) ∧
      ∀ dep ∈ t.deps, FileView.isThere call.2 (Path.join root dep) = true := by
  induction ts generalizing rebuilt w earlier with
  | nil => simp [calls] at h
  | cons t ts ih =>
    rcases calls_cons_cases h with ⟨rfl, rfl, hinvoked⟩ | ⟨r, rest, hstep, hearlier, hrest⟩
    · exact ⟨[], t, ts, [], rfl, rfl, rfl, rfl, isThere_of_invoked hinvoked⟩
    · obtain ⟨before, u, after, rs, rfl, hok, hinvoked, hcall, hthere⟩ := ih hrest
      refine ⟨t :: before, u, after, r :: rs, rfl, ?_, ?_, ?_, hthere⟩
      · rw [runSteps_of_ok hstep]
        dsimp only
        rw [hok]
        rfl
      · rw [runSteps_of_ok hstep, hearlier, ← hinvoked]
      · rw [runSteps_of_ok hstep]
        exact hcall

/-! ## What is rebuilt -/

/-- A target of steps that end well is current, or what is to become of a stale one has become of it. -/
theorem outcome_eq_ofStale_iff {r : StepResult} (h : (runStep runner root dryRun rebuilt w t).result = .ok r) :
    r.outcome = .ofStale dryRun ↔ r.outcome ≠ .upToDate := by
  have hexit := stepExit runner root dryRun rebuilt w t
  generalize runStep runner root dryRun rebuilt w t = step at h hexit
  cases hexit with
  | missing => cases h
  | unreadable => cases h
  | current => cases h; cases dryRun <;> simp [StepOutcome.ofStale]
  | planned _ _ _ hdry => cases h; simp [StepOutcome.ofStale, hdry]
  | invoked _ _ _ hdry =>
    obtain ⟨output, rfl, -⟩ := exists_of_resultOfCommand_ok h
    simp [StepOutcome.ofStale, hdry]

variable {rules : RuleSet} {roots : List Name} {plan : Plan} {rs : List StepResult}

/-- A step of a run that ends well is reported as current or as what becomes of a stale target. -/
theorem mem_upToDate_or_mem_ofStale (h : (runSteps runner root dryRun rebuilt w ts).result = .ok rs) (ht : t ∈ ts) :
    t.name ∈ (Report.mk rs).upToDate ∨ t.name ∈ (Report.mk rs).withOutcome (.ofStale dryRun) := by
  obtain ⟨r, hr, hname⟩ : ∃ r ∈ rs, r.target = t.name :=
    List.mem_map.mp (targets_of_runSteps h ▸ List.mem_map_of_mem ht)
  have houtcome := forall_of_runSteps_ok (fun _ _ _ _ => outcome_eq_ofStale_iff) h r hr
  by_cases hcurrent : r.outcome = .upToDate
  · exact Or.inl (Report.mem_withOutcome.mpr ⟨r, hr, hcurrent, hname⟩)
  · exact Or.inr (Report.mem_withOutcome.mpr ⟨r, hr, houtcome.mpr hcurrent, hname⟩)

/-- No dependency of a target that is reported as current was rebuilt. -/
theorem dep_not_mem_rebuilt (hplan : Graph.PlanFrom rules roots plan)
    (h : (runSteps runner root dryRun ∅ w plan.steps).result = .ok rs) (ht : t ∈ plan.steps)
    (hcurrent : t.name ∈ (Report.mk rs).upToDate) {dep : Name} (hdep : dep ∈ t.deps) :
    dep ∉ (Report.mk rs).withOutcome (.ofStale dryRun) := by
  intro hrebuilt
  obtain ⟨r, hr, houtcome, rfl⟩ := Report.mem_withOutcome.mp hrebuilt
  have hstale := (forall_of_runSteps_ok (fun _ _ _ _ => outcome_eq_ofStale_iff) h r hr).mp houtcome
  have htargets := targets_of_runSteps h
  have hnames := hplan.nodup_names
  obtain ⟨u, hu, hname⟩ : ∃ u ∈ plan.steps, u.name = r.target :=
    List.mem_map.mp (htargets ▸ List.mem_map_of_mem hr)
  have hrule := (hplan.mem_steps.mp ht).1
  have hedge : r.target ∈ (Graph.ofRules rules).dependencies t.name :=
    Graph.mem_dependencies_ofRules.mpr ⟨t, hrule, rfl, hdep⟩
  obtain ⟨before, after, hsteps⟩ := List.append_of_mem ht
  have hbefore : u ∈ before := hplan.mem_before hsteps (hplan.mem_steps.mp hu).1 (hname ▸ .single hedge)
  rw [hsteps] at h hnames htargets
  obtain ⟨rs₁, rs₂, hok, rfl, hreported⟩ := mem_upToDate_iff_decide hnames h
  obtain ⟨_, _, hall⟩ := Staleness.decide_eq_upToDate.mp (hreported.mp hcurrent)
  -- the result of the dependency is one of those before the target's turn, so the dependency was marked
  obtain ⟨r', hr', hname'⟩ : ∃ r' ∈ rs₁, r'.target = r.target :=
    List.mem_map.mp (targets_of_runSteps hok ▸ hname ▸ List.mem_map_of_mem hbefore)
  obtain rfl : r' = r :=
    List.inj_on_of_nodup_map (htargets ▸ hnames) (List.mem_append_left _ hr') hr hname'
  exact (hall r'.target hdep).1 (mem_marks.mpr (Or.inr ⟨r', hr', hstale, rfl⟩))

/-- Nothing that a target depends on was rebuilt if the target is reported as current. -/
theorem not_mem_rebuilt_of_dependsOn (hplan : Graph.PlanFrom rules roots plan)
    (h : (runSteps runner root dryRun ∅ w plan.steps).result = .ok rs) {name x : Name}
    (hd : (Graph.ofRules rules).DependsOn name x) (hcurrent : name ∈ (Report.mk rs).upToDate) :
    x ∉ (Report.mk rs).withOutcome (.ofStale dryRun) := by
  have hstep : ∀ {a b : Name}, b ∈ (Graph.ofRules rules).dependencies a → a ∈ (Report.mk rs).upToDate →
      ∃ t ∈ plan.steps, t.name = a ∧ b ∈ t.deps := by
    intro a b hedge ha
    obtain ⟨r, hr, _, rfl⟩ := Report.mem_withOutcome.mp ha
    obtain ⟨t, ht, hname⟩ : ∃ t ∈ plan.steps, t.name = r.target :=
      List.mem_map.mp (targets_of_runSteps h ▸ List.mem_map_of_mem hr)
    obtain ⟨t', ht', hname', hdep⟩ := Graph.mem_dependencies_ofRules.mp hedge
    exact ⟨t, ht, hname, RuleSet.eq_of_name_eq ht' (hplan.mem_steps.mp ht).1 (hname'.trans hname.symm) ▸ hdep⟩
  induction hd using Relation.TransGen.head_induction_on with
  | single hedge =>
    obtain ⟨t, ht, rfl, hdep⟩ := hstep hedge hcurrent
    exact dep_not_mem_rebuilt hplan h ht hcurrent hdep
  | @head a b hedge hrest ih =>
    -- the dependency has a rule, for it depends on something, so it is a step that was not rebuilt
    obtain ⟨t, ht, rfl, hdep⟩ := hstep hedge hcurrent
    obtain ⟨u, hu, rfl⟩ := Graph.exists_target_of_dependsOn hrest
    have hmem : u ∈ plan.steps := hplan.mem_steps.mpr ⟨hu,
      (Graph.buildOrder_of_closure hplan.closure).mem_of_reaches (hplan.mem_steps.mp ht).2 (.single hedge)⟩
    exact ih ((mem_upToDate_or_mem_ofStale h hmem).resolve_right (dep_not_mem_rebuilt hplan h ht hcurrent hdep))

end Build

/-- **Rebuilding spreads to all that depends on it.** Whatever the files are and whatever the commands do,

* every command that a build invokes is invoked after some steps of the plan, in the world that they left: its
  dependencies are there, and all targets that its own depends on are among these steps, built or up to date;
* where a build ends well, real or dry, a planned target is rebuilt if it depends on one that was, and a target is
  reported as up to date only if nothing that it depends on was rebuilt. -/
theorem rebuilding_spreads {σ : Type u} [FileView σ] (runner : Runner σ) (root : String) (rules : RuleSet)
    (target : Option Name) (w : σ) :
    let g := Graph.ofRules rules
    (buildCalls runner root rules target w).map Prod.fst = (buildRules runner root rules target false w).invoked ∧
    (∀ earlier i start later, buildCalls runner root rules target w = earlier ++ (i, start) :: later →
      ∃ plan before t after report, g.planFor root w target = .ok plan ∧ plan.steps = before ++ t :: after ∧
        i = t.invocation root ∧
        let behind := Build.execute runner root false w ⟨before, plan.closure⟩
        behind.result = .ok report ∧ behind.invoked = earlier.map Prod.fst ∧ behind.world = start ∧
        (∀ dep ∈ t.deps, FileView.isThere start (Path.join root dep) = true) ∧
        ∀ u ∈ rules.targets, g.DependsOn t.name u.name → u.name ∈ report.built ∨ u.name ∈ report.upToDate) ∧
    ∀ dryRun outcome, (buildRules runner root rules target dryRun w).result = .ok outcome →
      let rebuilt := outcome.report.withOutcome (.ofStale dryRun)
      (∀ name ∈ rebuilt, ∀ t ∈ outcome.plan.steps, g.DependsOn t.name name → t.name ∈ rebuilt) ∧
      ∀ name ∈ outcome.report.upToDate, ∀ x, g.DependsOn name x → x ∉ rebuilt := by
  intro g
  refine ⟨map_fst_buildCalls, fun earlier i start later hcalls => ?_, fun dryRun outcome hok => ?_⟩
  · cases hp : g.planFor root w target with
    | error failure => rw [buildCalls, hp] at hcalls; simp at hcalls
    | ok plan =>
      rw [buildCalls, hp] at hcalls
      have hplan := Graph.planFrom_of_planFor hp
      obtain ⟨before, t, after, rs, hsteps, hok, hinvoked, hcall, hthere⟩ := Build.exists_of_calls hcalls
      obtain ⟨rfl, rfl⟩ := Prod.mk.inj hcall
      refine ⟨plan, before, t, after, ⟨rs⟩, rfl, hsteps, rfl, Build.execute_eq_ok.mpr hok, hinvoked, rfl, hthere, ?_⟩
      intro u hu hd
      exact (Build.mem_upToDate_or_mem_ofStale hok (hplan.mem_before hsteps hu hd)).symm
  · obtain ⟨hp, hrun, _⟩ := exists_of_buildRules_ok hok
    have hplan := Graph.planFrom_of_planFor hp
    have hcurrent : ∀ name ∈ outcome.report.upToDate, ∀ x, g.DependsOn name x →
        x ∉ outcome.report.withOutcome (.ofStale dryRun) :=
      fun name hn x hd => Build.not_mem_rebuilt_of_dependsOn hplan hrun hd hn
    refine ⟨fun name hn t ht hd => ?_, hcurrent⟩
    exact (Build.mem_upToDate_or_mem_ofStale hrun ht).resolve_left fun hup => hcurrent t.name hup name hd hn

/-- The command of `B` sets its output back to the time zero and removes `A`, and yet `C`, which is later than `B`
before and after, is made again, when `B` is there. -/
theorem rebuilding_spreads_set_back :
    let commands := Rehearsal.usual.set "B" (.script [.stamp "B" 0, .remove "A"] (.ok ⟨.exited 0, "", ""⟩))
    let s := Store.empty.applyAll [.write "B" "b".toUTF8, .write "C" "c".toUTF8, .write "A" "a".toUTF8]
    let run := buildRules commands.runner "." .chain (some "C") false s
    (∃ outcome, run.result = .ok outcome ∧ outcome.report.upToDate = [] ∧ "B" ∈ outcome.report.built ∧
        "C" ∈ outcome.report.built) ∧
      ∃ first start report, buildCalls commands.runner "." .chain (some "C") s =
          [first, (⟨"C", ["B"], "cat", ["B"], "."⟩, start)] ∧
        FileView.isThere start (Path.join "." "B") = true ∧ FileView.isThere run.world "./A" = false ∧
        ("B" ∈ Report.built report ∨ "B" ∈ Report.upToDate report) := by
  intro commands s run
  have hbuilt : run.result.toOption.map (fun o => (o.plan.steps, o.report.upToDate, o.report.built)) =
      some (RuleSet.chain.targets, [], ["B", "C"]) := by decide +kernel
  have hinvoked : run.invoked = RuleSet.chain.targets.map (·.invocation ".") := by decide +kernel
  have hleft : FileView.isThere run.world "./A" = false := by decide +kernel
  have hdepends : (Graph.ofRules .chain).DependsOn "C" "B" :=
    .single (Graph.mem_dependencies_ofRules.mpr ⟨⟨"C", ["B"], "cat", ["B"]⟩, by decide, rfl, by decide⟩)
  obtain ⟨hcalls, hturn, hspread⟩ := rebuilding_spreads commands.runner "." .chain (some "C") s
  refine ⟨?_, ?_⟩
  · cases hr : run.result with
    | error failure => rw [hr] at hbuilt; cases hbuilt
    | ok outcome =>
      rw [hr] at hbuilt
      obtain ⟨hsteps, hparts⟩ := Prod.mk.inj (Option.some.inj hbuilt)
      obtain ⟨hcurrent, hnames⟩ := Prod.mk.inj hparts
      have hB : "B" ∈ outcome.report.built := by rw [hnames]; decide
      exact ⟨outcome, rfl, hcurrent, hB, (hspread false outcome hr).1 "B" hB ⟨"C", ["B"], "cat", ["B"]⟩
        (by rw [hsteps]; decide) hdepends⟩
  · rw [show (buildRules _ _ _ _ _ _).invoked = _ from hinvoked] at hcalls
    obtain ⟨first, rest, hlist, _, hrest⟩ := List.map_eq_cons_iff.mp hcalls
    obtain ⟨⟨i, start⟩, rest, rfl, rfl, hnil⟩ := List.map_eq_cons_iff.mp hrest
    rw [List.map_eq_nil_iff.mp hnil] at hlist
    obtain ⟨plan, before, t, after, report, hplan, hsteps, hi, _, _, hworld, hthere, hhandled⟩ :=
      hturn [first] _ start [] hlist
    cases t
    cases hi
    exact ⟨first, start, report, hlist, hthere "B" (by decide), hleft,
      hhandled ⟨"B", ["A"], "cat", ["A"]⟩ (by decide) hdepends⟩

end Rebuild
