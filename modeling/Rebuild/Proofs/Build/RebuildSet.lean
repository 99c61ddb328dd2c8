import Rebuild.Proofs.Build.Current
import Rebuild.Proofs.Build.DryRun

/-!
# What a build rebuilds

A target is rebuilt exactly if a target that it rests on, or it itself, is stale on its own (`Target.StaleAlone`) in the
files that the build starts from. A dry run goes step by step through the plan with the names rebuilt so far, and these
are the names behind it that have something stale below (`staleBelow_of_dry`); a real build agrees with the dry run.
-/

namespace Rebuild

/-! ## What a name leads to -/

/-- A name leads to a target that is stale on its own. -/
def RuleSet.StaleBelow (rules : RuleSet) (root : String) (s : Store) (name : Name) : Prop :=
  ∃ t ∈ rules.targets, (Graph.ofRules rules).Reaches name t.name ∧ t.StaleAlone root s

namespace RuleSet

variable {rules : RuleSet} {root : String} {s : Store}

/-- A target has something stale below if it is stale on its own or a dependency has. -/
theorem staleBelow_iff {t : Target} (ht : t ∈ rules.targets) :
    rules.StaleBelow root s t.name ↔ t.StaleAlone root s ∨ ∃ dep ∈ t.deps, rules.StaleBelow root s dep := by
  constructor
  · rintro ⟨u, hu, hreach, hstale⟩
    rcases Relation.ReflTransGen.cases_head hreach with he | ⟨dep, hdep, hreach⟩
    · exact Or.inl (eq_of_name_eq hu ht he.symm ▸ hstale)
    · obtain ⟨t', ht', he, hdep⟩ := Graph.mem_dependencies_ofRules.mp hdep
      exact Or.inr ⟨dep, eq_of_name_eq ht' ht he ▸ hdep, u, hu, hreach, hstale⟩
  · rintro (hstale | ⟨dep, hdep, u, hu, hreach, hstale⟩)
    · exact ⟨t, ht, Relation.ReflTransGen.refl, hstale⟩
    · have hedge : dep ∈ (Graph.ofRules rules).dependencies t.name :=
        Graph.mem_dependencies_ofRules.mpr ⟨t, ht, rfl, hdep⟩
      exact ⟨u, hu, Relation.ReflTransGen.head hedge hreach, hstale⟩

/-- Nothing is stale below a leaf. -/
theorem isSome_of_staleBelow {name : Name} (h : rules.StaleBelow root s name) : (rules.get? name).isSome := by
  obtain ⟨u, hu, hreach, _⟩ := h
  cases hg : rules.get? name with
  | some t => rfl
  | none =>
    have hdeps : (Graph.ofRules rules).dependencies name = [] := by
      rw [Graph.dependencies_eq, Graph.rule?_ofRules, hg]; rfl
    rw [← Graph.eq_of_reaches_leaf hreach hdeps, get?_of_mem hu] at hg
    cases hg

end RuleSet

/-! ## Dry runs -/

namespace Build

variable {σ : Type u} [StoreView σ] {runner : Runner σ} {rules : RuleSet} {root : String} {w : σ}

/-- The names rebuilt are those behind that have something stale below. -/
def MarksStale (rules : RuleSet) (root : String) (s : Store) (done : List Name) (rebuilt : NameSet) : Prop :=
  ∀ name, name ∈ rebuilt ↔ name ∈ done ∧ rules.StaleBelow root s name

/-- A dry step says that its target would be built if something is stale below it, and marks it then. -/
theorem staleBelow_of_dry_step {done : List Name} {rebuilt : NameSet} {t : Target} {ts : List Target}
    (ho : rules.Orderly done (t :: ts)) (hm : MarksStale rules root (StoreView.store w) done rebuilt) {r : StepResult}
    (h : (runStep runner root true rebuilt w t).result = .ok r) :
    (r.outcome = .wouldBuild ↔ rules.StaleBelow root (StoreView.store w) t.name) ∧
      MarksStale rules root (StoreView.store w) (t.name :: done) (markRebuilt rebuilt r) := by
  obtain ⟨ht, _, hdeps, _⟩ := ho
  have hstale : Staleness.ofStore root rebuilt (StoreView.store w) t ≠ .upToDate ↔
      rules.StaleBelow root (StoreView.store w) t.name := by
    rw [Staleness.ofStore_ne_upToDate, RuleSet.staleBelow_iff ht]
    refine or_congr_right (exists_congr fun dep => and_congr_right fun hdep => ?_)
    rw [hm]
    exact ⟨And.right, fun hb => ⟨hdeps dep hdep (RuleSet.isSome_of_staleBelow hb), hb⟩⟩
  have hr : r.target = t.name ∧ (r.outcome = .wouldBuild ↔ rules.StaleBelow root (StoreView.store w) t.name) ∧
      (r.outcome ≠ .upToDate ↔ rules.StaleBelow root (StoreView.store w) t.name) := by
    rw [result_runStep_dry] at h
    cases hmissing : missingSource? root true rebuilt w t with
    | some dep => rw [hmissing] at h; cases h
    | none =>
      rw [hmissing] at h
      cases h
      refine ⟨rfl, ?_⟩
      dsimp only
      rw [← hstale]
      split <;> simp_all
  obtain ⟨htarget, hwould, hmark⟩ := hr
  refine ⟨hwould, fun name => ?_⟩
  rw [mem_markRebuilt, hm, hmark, htarget, List.mem_cons]
  constructor
  · rintro (⟨hd, hb⟩ | ⟨hb, rfl⟩)
    · exact ⟨Or.inr hd, hb⟩
    · exact ⟨Or.inl rfl, hb⟩
  · rintro ⟨rfl | hd, hb⟩
    · exact Or.inr ⟨hb, rfl⟩
    · exact Or.inl ⟨hd, hb⟩

/-- A dry run says of each step that its target would be built if something is stale below it. -/
theorem staleBelow_of_dry {ts : List Target} : ∀ {done : List Name} {rebuilt : NameSet} {rs : List StepResult},
    rules.Orderly done ts → MarksStale rules root (StoreView.store w) done rebuilt →
      (runSteps runner root true rebuilt w ts).result = .ok rs →
      ∀ r ∈ rs, r.outcome = .wouldBuild ↔ rules.StaleBelow root (StoreView.store w) r.target := by
  induction ts with
  | nil => intro done rebuilt rs _ _ h; cases h; simp
  | cons t ts ih =>
    intro done rebuilt rs ho hm h
    obtain ⟨r, rest, hstep, rfl, hrest⟩ := exists_of_runSteps_ok h
    obtain ⟨hwould, hm'⟩ := staleBelow_of_dry_step ho hm hstep
    rw [(runStep_dry runner root rebuilt w t).2] at hrest
    intro r' hr'
    rcases List.mem_cons.mp hr' with rfl | hr'
    · rw [target_of_runStep hstep]; exact hwould
    · exact ih ho.2.2.2 hm' hrest r' hr'

/-! ## Real runs -/

/-- Nothing would be built by a real step: it is built or is current. -/
theorem not_wouldBuild_of_real_step {rebuilt : NameSet} {t : Target} {r : StepResult}
    (h : (runStep runner root false rebuilt w t).result = .ok r) : r.outcome ≠ .wouldBuild := by
  have hcase := stepCase runner root false rebuilt w t
  generalize runStep runner root false rebuilt w t = step at h hcase
  cases hcase with
  | missing => cases h
  | current => cases h; simp
  | planned _ _ hfalse => cases hfalse
  | failed => cases h
  | built => cases h; simp

theorem not_wouldBuild_of_real {rebuilt : NameSet} {ts : List Target} {rs : List StepResult}
    (h : (runSteps runner root false rebuilt w ts).result = .ok rs) : ∀ r ∈ rs, r.outcome ≠ .wouldBuild :=
  forall_of_runSteps_ok (fun _ _ _ _ hstep => not_wouldBuild_of_real_step hstep) h

end Build

/-! ## Builds -/

section Requests

variable {σ : Type u} [StoreView σ] {runner : Runner σ} {root : String} {rules : RuleSet} {target : Option Name} {w : σ}
  {outcome : Outcome} {name : Name}

/-- A dry run that ends well says that the planned targets with something stale below would be built. -/
theorem mem_wouldBuild_iff (h : (buildRules runner root rules target true w).result = .ok outcome) :
    name ∈ outcome.report.withOutcome .wouldBuild ↔
      (∃ t ∈ outcome.plan.steps, t.name = name) ∧ rules.StaleBelow root (StoreView.store w) name := by
  obtain ⟨hp, hr, _⟩ := exists_of_buildRules_ok h
  have hstart : Build.MarksStale rules root (StoreView.store w) [] ∅ := fun _ => by simp
  have hall := Build.staleBelow_of_dry (Graph.orderly_of_planFor hp) hstart hr
  have htargets : (∃ t ∈ outcome.plan.steps, t.name = name) ↔ ∃ r ∈ outcome.report.results, r.target = name := by
    rw [← List.mem_map, ← List.mem_map, Build.targets_of_runSteps hr]
  rw [Report.mem_withOutcome, htargets]
  constructor
  · rintro ⟨r, hr, hwould, rfl⟩
    exact ⟨⟨r, hr, rfl⟩, (hall r hr).mp hwould⟩
  · rintro ⟨⟨r, hr, rfl⟩, hstale⟩
    exact ⟨r, hr, (hall r hr).mpr hstale, rfl⟩

/-- A real build that ends well builds what its dry run says. -/
theorem mem_built_iff_dry (h : (buildRules runner root rules target false w).result = .ok outcome) :
    name ∈ outcome.report.built ↔
      name ∈ (Report.mk (outcome.report.results.map StepResult.foreseen)).withOutcome .wouldBuild := by
  obtain ⟨_, hr, _⟩ := exists_of_buildRules_ok h
  unfold Report.built
  rw [Report.mem_withOutcome, Report.mem_withOutcome]
  constructor
  · rintro ⟨r, hmem, hbuilt, rfl⟩
    exact ⟨r.foreseen, List.mem_map_of_mem hmem, if_pos hbuilt, rfl⟩
  · rintro ⟨r', hmem, hwould, rfl⟩
    obtain ⟨r, hmem', rfl⟩ := List.mem_map.mp hmem
    refine ⟨r, hmem', ?_, rfl⟩
    by_contra hn
    exact Build.not_wouldBuild_of_real hr r hmem' ((if_neg hn).symm.trans hwould)

end Requests

/-- **What is rebuilt.** The targets that a dry run would build are the planned ones that are stale on their own or lead
to a target that is, in the files at the start. So are those that a real build has built, if different names of the
rules are different files and each command keeps all files but that of its target. -/
theorem rebuilt_iff_staleBelow {σ : Type u} [StoreView σ] (runner : Runner σ) (root : String) (rules : RuleSet)
    (target : Option Name) (w : σ) :
    (∀ outcome, (buildRules runner root rules target true w).result = .ok outcome →
      ∀ name, name ∈ outcome.report.withOutcome .wouldBuild ↔
        (∃ t ∈ outcome.plan.steps, t.name = name) ∧ rules.StaleBelow root (StoreView.store w) name) ∧
    (rules.Distinct root → (∀ call ∈ buildCalls runner root rules target w, runner.KeepsOthers call.1 call.2) →
      ∀ outcome, (buildRules runner root rules target false w).result = .ok outcome →
        ∀ name, name ∈ outcome.report.built ↔
          (∃ t ∈ outcome.plan.steps, t.name = name) ∧ rules.StaleBelow root (StoreView.store w) name) := by
  refine ⟨fun outcome h name => mem_wouldBuild_iff h, fun hd hk outcome h name => ?_⟩
  rw [mem_built_iff_dry h]
  exact mem_wouldBuild_iff (buildRules_dry_of_ok hd hk h)

/-- With `A` newer than `B`, a build of `C` rebuilds `C`, which is newer than both. -/
theorem rebuilt_iff_staleBelow_chain :
    let runner := Rehearsal.usual.runner
    let w := Store.empty.applyAll [.write "B" "b".toUTF8, .write "A" "a".toUTF8, .write "C" "c".toUTF8]
    RuleSet.chain.Distinct "." ∧
    (∀ call ∈ buildCalls runner "." .chain (some "C") w, runner.KeepsOthers call.1 call.2) ∧
    ∃ outcome, (buildRules runner "." .chain (some "C") false w).result = .ok outcome ∧
      outcome.report.built = ["B", "C"] ∧ RuleSet.chain.StaleBelow "." w "C" := by
  intro runner w
  have hk : ∀ call ∈ buildCalls runner "." .chain (some "C") w, runner.KeepsOthers call.1 call.2 := fun call _ =>
    Rehearsal.keepsOthers (Rehearsal.isProduce_usual _).isPlain call.2
  have hreal : (buildRules runner "." .chain (some "C") false w).result.toOption.map (·.report.built) =
      some ["B", "C"] := by decide +kernel
  cases hresult : (buildRules runner "." .chain (some "C") false w).result with
  | error failure => rw [hresult] at hreal; cases hreal
  | ok outcome =>
    rw [hresult] at hreal
    have hbuilt : outcome.report.built = ["B", "C"] := Option.some.inj hreal
    have hiff := (rebuilt_iff_staleBelow runner "." .chain (some "C") w).2 RuleSet.chain_distinct hk outcome hresult "C"
    exact ⟨RuleSet.chain_distinct, hk, outcome, rfl, hbuilt, (hiff.mp (by rw [hbuilt]; decide)).2⟩

end Rebuild
