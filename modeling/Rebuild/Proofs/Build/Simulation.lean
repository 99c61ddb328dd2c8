import Rebuild.Proofs.Build.Refusal

/-!
# Builds that see the same

A build looks at nothing but what its view shows of the names of its targets and their dependencies. So two builds in
two worlds, of whatever kind, come to the same where the worlds show the same of these names and the commands keep it
so: each step has the same result and invokes the same (`runStep_matches`), and so do all steps (`runSteps_matches`) and
the build of a request (`buildRules_matches`). A dry run invokes nothing, so its commands may be any
(`buildRules_dry_congr`).
-/

namespace Rebuild

variable {σ : Type u} {τ : Type v}

/-- Two runs come to the same, and leave related worlds. -/
structure Run.Matches {α : Type w} (R : σ → τ → Prop) (run : Run σ α) (run' : Run τ α) : Prop where
  result : run.result = run'.result
  invoked : run.invoked = run'.invoked
  world : R run.world run'.world

theorem Run.Matches.eq {α : Type w} {run run' : Run σ α} (h : run.Matches Eq run') : run = run' := by
  obtain ⟨result, invoked, world⟩ := run
  obtain ⟨result', invoked', world'⟩ := run'
  obtain ⟨rfl, rfl, rfl⟩ := h
  rfl

/-- A command comes to the same in related worlds, and leaves related worlds. -/
def Runner.Keeps (R : σ → τ → Prop) (runner : Runner σ) (runner' : Runner τ) (i : Invocation) (w : σ) : Prop :=
  ∀ v, R w v → (runner i w).1 = (runner' i v).1 ∧ R (runner i w).2 (runner' i v).2

variable [FileView σ] [FileView τ]

/-- Two worlds show the same of a name: whether it is there, and when it was last modified. -/
def ShowsSame (root : String) (w : σ) (v : τ) (name : Name) : Prop :=
  FileView.isThere w (Path.join root name) = FileView.isThere v (Path.join root name) ∧
    FileView.modified w (Path.join root name) = FileView.modified v (Path.join root name)

namespace Build

variable {R : σ → τ → Prop} {runner : Runner σ} {runner' : Runner τ} {root : String} {dryRun : Bool} {rebuilt : NameSet}
  {w : σ} {v : τ} {names : List Name} {t : Target} {ts : List Target}

/-! ## Decisions -/

theorem missingSource?_congr (h : ∀ dep ∈ t.deps, ShowsSame root w v dep) :
    missingSource? root dryRun rebuilt w t = missingSource? root dryRun rebuilt v t :=
  List.find?_congr fun dep hdep => by rw [(h dep hdep).1]

theorem firstNewer?_congr {time : Time} {deps : List Name} (h : ∀ dep ∈ deps, ShowsSame root w v dep) :
    Staleness.firstNewer? root w time deps = Staleness.firstNewer? root v time deps := by
  induction deps with
  | nil => rfl
  | cons dep deps ih =>
    obtain ⟨hdep, hdeps⟩ := List.forall_mem_cons.mp h
    rw [Staleness.firstNewer?, Staleness.firstNewer?, hdep.2, ih hdeps]

theorem decideStep_congr (h : ∀ name ∈ t.name :: t.deps, ShowsSame root w v name) :
    decideStep root dryRun rebuilt w t = decideStep root dryRun rebuilt v t := by
  obtain ⟨hname, hdeps⟩ := List.forall_mem_cons.mp h
  unfold decideStep Staleness.decide
  rw [missingSource?_congr hdeps, hname.2]
  simp only [firstNewer?_congr hdeps]

theorem resultOfCommand_congr {staleness : Staleness} {ended : Except StartFault Output}
    (h : ShowsSame root w v t.name) :
    resultOfCommand root t staleness w ended = resultOfCommand root t staleness v ended := by
  unfold resultOfCommand
  rw [h.1]

/-! ## Steps -/

section

variable (hview : ∀ w v, R w v → ∀ name ∈ names, ShowsSame root w v name)
include hview

theorem command_matches (ht : t.name ∈ names) (hkeeps : runner.Keeps R runner' (t.invocation root) w) (h : R w v)
    (staleness : Staleness) :
    let after := runner (t.invocation root) w
    let after' := runner' (t.invocation root) v
    Run.Matches R ⟨resultOfCommand root t staleness after.2 after.1, [t.invocation root], after.2⟩
      ⟨resultOfCommand root t staleness after'.2 after'.1, [t.invocation root], after'.2⟩ := by
  obtain ⟨hended, hafter⟩ := hkeeps v h
  refine ⟨?_, rfl, hafter⟩
  rw [hended]
  exact resultOfCommand_congr (hview _ _ hafter t.name ht)

/-- A step comes to the same in worlds that show the same of its names. -/
theorem runStep_matches (ht : t.name :: t.deps ⊆ names)
    (hkeeps : dryRun = false → ∀ i ∈ (runStep runner root false rebuilt w t).invoked, runner.Keeps R runner' i w)
    (h : R w v) :
    (runStep runner root dryRun rebuilt w t).Matches R (runStep runner' root dryRun rebuilt v t) := by
  have hdecide : decideStep root dryRun rebuilt w t = decideStep root dryRun rebuilt v t :=
    decideStep_congr fun name hname => hview w v h name (ht hname)
  have hname : t.name ∈ names := ht List.mem_cons_self
  unfold runStep at hkeeps ⊢
  cases dryRun with
  | true =>
    rw [hdecide]
    split <;> exact ⟨rfl, rfl, h⟩
  | false =>
    have hkeeps := hkeeps rfl
    rw [hdecide] at hkeeps ⊢
    generalize decideStep root false rebuilt v t = decision at hkeeps ⊢
    cases decision with
    | error failure => exact ⟨rfl, rfl, h⟩
    | ok staleness =>
      cases staleness with
      | upToDate => exact ⟨rfl, rfl, h⟩
      | _ => exact command_matches hview hname (hkeeps _ List.mem_cons_self) h _

/-- Steps come to the same in worlds that show the same of their names, if their commands keep it so. -/
theorem runSteps_matches (hts : ∀ t ∈ ts, t.name :: t.deps ⊆ names)
    (hkeeps : dryRun = false → ∀ call ∈ calls runner root rebuilt w ts, runner.Keeps R runner' call.1 call.2)
    (h : R w v) :
    (runSteps runner root dryRun rebuilt w ts).Matches R (runSteps runner' root dryRun rebuilt v ts) := by
  induction ts generalizing rebuilt w v with
  | nil => exact ⟨rfl, rfl, h⟩
  | cons t ts ih =>
    obtain ⟨ht, hts⟩ := List.forall_mem_cons.mp hts
    have hfirst : (runStep runner root dryRun rebuilt w t).Matches R (runStep runner' root dryRun rebuilt v t) := by
      refine runStep_matches hview ht (fun hreal i hi => hkeeps hreal (i, w) ?_) h
      rw [calls]
      exact List.mem_append_left _ (List.mem_map_of_mem hi)
    cases hstep : (runStep runner root dryRun rebuilt w t).result with
    | error failure =>
      rw [runSteps_of_error hstep, runSteps_of_error (hfirst.result ▸ hstep)]
      exact ⟨rfl, hfirst.invoked, hfirst.world⟩
    | ok r =>
      have hrest : (runSteps runner root dryRun (markRebuilt rebuilt r) (runStep runner root dryRun rebuilt w t).world
          ts).Matches R (runSteps runner' root dryRun (markRebuilt rebuilt r)
            (runStep runner' root dryRun rebuilt v t).world ts) := by
        refine ih hts (fun hreal call hcall => hkeeps hreal call ?_) hfirst.world
        subst hreal
        rw [calls_of_ok hstep]
        exact List.mem_append_right _ hcall
      rw [runSteps_of_ok hstep, runSteps_of_ok (hfirst.result ▸ hstep)]
      refine ⟨?_, ?_, hrest.world⟩
      · dsimp only
        rw [hrest.result]
      · dsimp only
        rw [hfirst.invoked, hrest.invoked]

/-- The commands that steps invoke start in related worlds. -/
theorem exists_of_mem_calls (hts : ∀ t ∈ ts, t.name :: t.deps ⊆ names)
    (hkeeps : ∀ call ∈ calls runner root rebuilt w ts, runner.Keeps R runner' call.1 call.2) (h : R w v)
    {call' : Invocation × τ} (hcall : call' ∈ calls runner' root rebuilt v ts) :
    ∃ call ∈ calls runner root rebuilt w ts, call.1 = call'.1 ∧ R call.2 call'.2 := by
  induction ts generalizing rebuilt w v with
  | nil => cases hcall
  | cons t ts ih =>
    obtain ⟨ht, hts⟩ := List.forall_mem_cons.mp hts
    rw [calls] at hkeeps ⊢
    obtain ⟨hkeepsFirst, hkeepsRest⟩ := List.forall_mem_append.mp hkeeps
    have hfirst : (runStep runner root false rebuilt w t).Matches R (runStep runner' root false rebuilt v t) :=
      runStep_matches hview ht (fun _ i hi => hkeepsFirst _ (List.mem_map_of_mem hi)) h
    rw [calls, ← hfirst.invoked, ← hfirst.result] at hcall
    rcases List.mem_append.mp hcall with hcall | hcall
    · obtain ⟨i, hi, rfl⟩ := List.mem_map.mp hcall
      exact ⟨(i, w), List.mem_append_left _ (List.mem_map_of_mem hi), rfl, h⟩
    · cases hstep : (runStep runner root false rebuilt w t).result with
      | error failure => rw [hstep] at hcall; cases hcall
      | ok r =>
        rw [hstep] at hcall hkeepsRest
        obtain ⟨call, hmem, hrelated⟩ := ih hts hkeepsRest hfirst.world hcall
        exact ⟨call, List.mem_append_right _ hmem, hrelated⟩

end

end Build

/-! ## Requests -/

variable {R : σ → τ → Prop} {runner : Runner σ} {runner' : Runner τ} {root : String} {rules : RuleSet}
  {target : Option Name} {dryRun : Bool} {w : σ} {v : τ}

/-- The names of the steps of a plan are names of the rules. -/
theorem names_of_planFor {plan : Plan} (h : (Graph.ofRules rules).planFor root w target = .ok plan) :
    ∀ t ∈ plan.steps, t.name :: t.deps ⊆ rules.names := fun t ht => by
  have htarget := (Graph.orderly_of_planFor h).mem_targets t ht
  exact List.cons_subset.mpr ⟨RuleSet.name_mem_names htarget, fun _ hdep => RuleSet.dep_mem_names htarget hdep⟩

/-- A build invokes commands of rules. -/
theorem exists_target_of_mem_buildCalls {call : Invocation × σ} (h : call ∈ buildCalls runner root rules target w) :
    ∃ t ∈ rules.targets, call.1 = t.invocation root := by
  obtain ⟨_, hp, t, ht, he⟩ := exists_step_of_mem_buildCalls h
  exact ⟨t, (Graph.orderly_of_planFor hp).mem_targets t ht, he⟩

section

variable (hview : ∀ w v, R w v → ∀ name, name ∈ rules.names ∨ target = some name → ShowsSame root w v name)
include hview

/-- The build of a request comes to the same in worlds that show the same of its name and of the names of the rules, if
the commands keep it so. -/
theorem buildRules_matches
    (hkeeps : dryRun = false → ∀ call ∈ buildCalls runner root rules target w, runner.Keeps R runner' call.1 call.2)
    (h : R w v) :
    (buildRules runner root rules target dryRun w).Matches R (buildRules runner' root rules target dryRun v) := by
  have hplan : (Graph.ofRules rules).planFor root w target = (Graph.ofRules rules).planFor root v target :=
    Graph.planFor_congr_world fun name hname => (hview w v h name (Or.inr hname)).1
  cases hp : (Graph.ofRules rules).planFor root w target with
  | error failure =>
    rw [buildRules_of_error hp, buildRules_of_error (hplan ▸ hp)]
    exact ⟨rfl, rfl, h⟩
  | ok plan =>
    rw [buildRules_of_plan hp, buildRules_of_plan (hplan ▸ hp)]
    rw [buildCalls_of_plan hp] at hkeeps
    have hrun := Build.runSteps_matches (fun w v h name hname => hview w v h name (Or.inl hname)) (names_of_planFor hp)
      hkeeps h
    exact ⟨by dsimp only; rw [hrun.result], hrun.invoked, hrun.world⟩

/-- The commands that it invokes start in related worlds. -/
theorem exists_of_mem_buildCalls
    (hkeeps : ∀ call ∈ buildCalls runner root rules target w, runner.Keeps R runner' call.1 call.2) (h : R w v)
    {call' : Invocation × τ} (hcall : call' ∈ buildCalls runner' root rules target v) :
    ∃ call ∈ buildCalls runner root rules target w, call.1 = call'.1 ∧ R call.2 call'.2 := by
  have hplan : (Graph.ofRules rules).planFor root w target = (Graph.ofRules rules).planFor root v target :=
    Graph.planFor_congr_world fun name hname => (hview w v h name (Or.inr hname)).1
  cases hp : (Graph.ofRules rules).planFor root w target with
  | error failure =>
    rw [buildCalls, ← hplan, hp] at hcall
    cases hcall
  | ok plan =>
    rw [buildCalls_of_plan hp] at hkeeps ⊢
    rw [buildCalls_of_plan (hplan ▸ hp)] at hcall
    exact Build.exists_of_mem_calls (fun w v h name hname => hview w v h name (Or.inl hname)) (names_of_planFor hp)
      hkeeps h hcall

end

/-- A dry run is the same whatever the commands would do. -/
theorem buildRules_dry_congr (runner runner' : Runner σ) (root : String) (rules : RuleSet) (target : Option Name)
    (w : σ) : buildRules runner root rules target true w = buildRules runner' root rules target true w := by
  refine Run.Matches.eq (buildRules_matches (fun w v h _ _ => ?_) nofun rfl)
  subst h
  exact ⟨rfl, rfl⟩

end Rebuild
