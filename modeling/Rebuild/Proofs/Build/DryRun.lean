import Rebuild.Proofs.Build.Foresight
import Rebuild.Proofs.Rehearsal

/-!
# Dry runs and real builds

A dry run decides as the real build would from the same files (`dry_run_foresees`), if different names of the rules are
different files and each command changes no file but that of its target. It fails where the real build fails for a
reason other than a command, and otherwise goes at least as far.
-/

namespace Rebuild

/-- A dry run goes past the target that is to blame for a failure, and says that this would be built. -/
def GoesPast {σ : Type u} [StoreView σ] (runner : Runner σ) (root : String) (rules : RuleSet) (target : Option Name)
    (w : σ) (failure : Failure) : Prop :=
  ∃ plan before t after rs, (Graph.ofRules rules).planFor root w target = .ok plan ∧
    plan.steps = before ++ t :: after ∧ failure.culprit? = some t.name ∧
    (Build.runSteps runner root true ∅ w (before ++ [t])).result = .ok rs ∧
      ∃ r ∈ rs, r.target = t.name ∧ r.outcome = .wouldBuild

section Requests

variable {σ : Type u} [StoreView σ] {runner : Runner σ} {root : String} {rules : RuleSet} {target : Option Name} {w : σ}

variable (hd : rules.Distinct root)
  (hk : ∀ call ∈ buildCalls runner root rules target w, runner.KeepsOthers call.1 call.2)
include hd hk

/-- A dry run says of every step what it comes to in a real build that ends well. -/
theorem buildRules_dry_of_ok {outcome : Outcome}
    (h : (buildRules runner root rules target false w).result = .ok outcome) :
    (buildRules runner root rules target true w).result =
      .ok { outcome with report := ⟨outcome.report.results.map StepResult.foreseen⟩ } := by
  obtain ⟨hp, hr, hl⟩ := exists_of_buildRules_ok h
  unfold buildCalls at hk
  rw [hp] at hk
  obtain ⟨hdry, _⟩ := Build.dry_of_ok hd (Graph.orderly_of_planFor hp) (by simp)
    (Build.drift_refl rules root (StoreView.store w)) hk hr
  rw [buildRules_of_plan hp]
  dsimp only
  rw [hdry, hl]
  rfl

/-- Where a real build fails, the dry run does so too, or it goes past the target to blame. -/
theorem buildRules_dry_of_error {failure : Failure}
    (h : (buildRules runner root rules target false w).result = .error failure) :
    (buildRules runner root rules target true w).result = .error failure ∨
      GoesPast runner root rules target w failure := by
  rcases buildRules_error_cases h with hp | ⟨plan, hp, hr⟩
  · rw [buildRules_of_error hp]
    exact Or.inl rfl
  · unfold buildCalls at hk
    rw [hp] at hk
    rw [buildRules_of_plan hp]
    dsimp only
    rcases Build.dry_of_error hd (Graph.orderly_of_planFor hp) hk hr with
      ⟨_, _, hdry⟩ | ⟨before, t, after, rs, hsteps, hblame, hdry, hwould⟩
    · rw [hdry]; exact Or.inl rfl
    · exact Or.inr ⟨plan, before, t, after, rs, hp, hsteps, hblame, hdry, hwould⟩

/-- A real build that fails for another reason than a command has the failure of the dry run. -/
theorem buildRules_dry_of_blameless {failure : Failure}
    (h : (buildRules runner root rules target false w).result = .error failure) (hblame : failure.culprit? = none) :
    (buildRules runner root rules target true w).result = .error failure := by
  rcases buildRules_dry_of_error hd hk h with hdry | ⟨_, _, _, _, _, _, _, hblame', _⟩
  · exact hdry
  · rw [hblame] at hblame'; cases hblame'

/-- Where a dry run ends well, the real build does so too, or a target that would be built is to blame. -/
theorem buildRules_of_dry_ok {outcome : Outcome}
    (hdry : (buildRules runner root rules target true w).result = .ok outcome) :
    (∃ built, (buildRules runner root rules target false w).result = .ok built) ∨
      ∃ failure, (buildRules runner root rules target false w).result = .error failure ∧
        ∃ name ∈ outcome.report.withOutcome .wouldBuild, failure.culprit? = some name := by
  cases h : (buildRules runner root rules target false w).result with
  | ok built => exact Or.inl ⟨built, rfl⟩
  | error failure =>
    refine Or.inr ⟨failure, rfl, ?_⟩
    rcases buildRules_dry_of_error hd hk h with
      hdry' | ⟨plan, before, t, after, rs, hp, hs, hblame, hrun, r, hr, ht, hw⟩
    · rw [hdry] at hdry'; cases hdry'
    · -- the steps up to the target to blame are the first of the dry run
      obtain ⟨hp', hall, _⟩ := exists_of_buildRules_ok hdry
      obtain rfl : plan = outcome.plan := by rw [hp] at hp'; exact Except.ok.inj hp'
      rw [hs, List.append_cons] at hall
      obtain ⟨first, rest, hfirst, he, _⟩ := Build.exists_of_runSteps_append_ok hall
      obtain rfl : rs = first := Except.ok.inj (hrun.symm.trans hfirst)
      refine ⟨t.name, Report.mem_withOutcome.mpr ⟨r, ?_, hw, ht⟩, hblame⟩
      rw [he]
      exact List.mem_append_left _ hr

/-- Where a dry run fails, the real build fails alike, or with a target that the dry run went past. -/
theorem buildRules_of_dry_error {failure : Failure}
    (hdry : (buildRules runner root rules target true w).result = .error failure) :
    (buildRules runner root rules target false w).result = .error failure ∨
      ∃ failure', (buildRules runner root rules target false w).result = .error failure' ∧
        GoesPast runner root rules target w failure' := by
  cases h : (buildRules runner root rules target false w).result with
  | ok built => rw [buildRules_dry_of_ok hd hk h] at hdry; cases hdry
  | error failure' =>
    rcases buildRules_dry_of_error hd hk h with hdry' | hearlier
    · rw [hdry] at hdry'; cases hdry'; exact Or.inl rfl
    · exact Or.inr ⟨failure', rfl, hearlier⟩

end Requests

/-- **A dry run foresees the real build.** If different names of the rules are different files and every command that
the build invokes keeps all files but that of its target, then the dry run invokes nothing, changes nothing, and

* a real build that ends well has the plan, the listing and, step by step, the decisions of the dry run, and built what
  the dry run says would be built;
* a real build that fails for another reason than a command has the failure of the dry run;
* where the dry run ends well, the real build does so too, or fails with a command of a target that would be built;
* where the dry run misses a source, the real build misses it too, or fails before with the command of a target that
  the dry run went past. -/
theorem dry_run_foresees {σ : Type u} [StoreView σ] (runner : Runner σ) (root : String) (rules : RuleSet)
    (target : Option Name) (w : σ) (hd : rules.Distinct root)
    (hk : ∀ call ∈ buildCalls runner root rules target w, runner.KeepsOthers call.1 call.2) :
    let dry := buildRules runner root rules target true w
    let real := buildRules runner root rules target false w
    dry.invoked = [] ∧ dry.world = w ∧
    (∀ outcome, real.result = .ok outcome →
      dry.result = .ok { outcome with report := ⟨outcome.report.results.map StepResult.foreseen⟩ }) ∧
    (∀ failure, real.result = .error failure → failure.culprit? = none → dry.result = .error failure) ∧
    (∀ outcome, dry.result = .ok outcome → (∃ built, real.result = .ok built) ∨
      ∃ failure, real.result = .error failure ∧
        ∃ name ∈ outcome.report.withOutcome .wouldBuild, failure.culprit? = some name) ∧
    (∀ dep, dry.result = .error (.missingSource dep) → real.result = .error (.missingSource dep) ∨
      ∃ failure, real.result = .error failure ∧ GoesPast runner root rules target w failure) := by
  obtain ⟨hinvoked, hworld⟩ := buildRules_dry runner root rules target w
  exact ⟨hinvoked, hworld, fun _ h => buildRules_dry_of_ok hd hk h, fun _ h => buildRules_dry_of_blameless hd hk h,
    fun _ h => buildRules_of_dry_ok hd hk h, fun _ h => buildRules_of_dry_error hd hk h⟩

/-- Where the command of `B` produces and that of `C` fails, the dry run says that `C` would be built. -/
theorem dry_run_foresees_chain :
    let runner := (Rehearsal.usual.set "C" (.fail 2 "no")).runner
    let w := Store.empty.write "A" "a".toUTF8
    RuleSet.chain.Distinct "." ∧
    (∀ call ∈ buildCalls runner "." .chain none w, runner.KeepsOthers call.1 call.2) ∧
    ∃ outcome, (buildRules runner "." .chain none true w).result = .ok outcome ∧
      outcome.report.withOutcome .wouldBuild = ["B", "C"] ∧
      ∃ failure, (buildRules runner "." .chain none false w).result = .error failure ∧
        ∃ name ∈ outcome.report.withOutcome .wouldBuild, failure.culprit? = some name := by
  intro runner w
  have hk : ∀ call ∈ buildCalls runner "." .chain none w, runner.KeepsOthers call.1 call.2 := fun call _ =>
    Rehearsal.keepsOthers (by unfold Rehearsal.set; split <;> exact trivial) call.2
  obtain ⟨_, _, _, _, hforesees, _⟩ := dry_run_foresees runner "." .chain none w RuleSet.chain_distinct hk
  have hdry : (buildRules runner "." .chain none true w).result.toOption.map
      (·.report.withOutcome .wouldBuild) = some ["B", "C"] := by decide +kernel
  have hreal : (buildRules runner "." .chain none false w).result.toOption.isNone = true := by decide +kernel
  obtain ⟨outcome, ho, hwould⟩ := Option.map_eq_some_iff.mp hdry
  cases hresult : (buildRules runner "." .chain none true w).result with
  | error failure => rw [hresult] at ho; cases ho
  | ok outcome' =>
    rw [hresult] at ho
    cases ho
    refine ⟨RuleSet.chain_distinct, hk, outcome, rfl, hwould, ?_⟩
    rcases hforesees outcome hresult with ⟨built, hbuilt⟩ | hfails
    · rw [hbuilt] at hreal; cases hreal
    · exact hfails

end Rebuild
