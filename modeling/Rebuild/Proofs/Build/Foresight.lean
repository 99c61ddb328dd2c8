import Rebuild.Proofs.Build.Step
import Rebuild.Proofs.Build.Steps
import Rebuild.Proofs.PlanOrder

/-!
# What a dry run foresees

A real run of steps and a dry run of the same steps decide alike, although the files of the real run drift away from
those that the dry run looks at: `Drift` says how far. A name rebuilt by the real run has a file, which the dry run
takes for granted, and every other name has the file that it had. So a real run that ends well is foreseen step by step
(`dry_of_ok`), and one that fails is foreseen up to the command that is to blame (`dry_of_error`).
-/

namespace Rebuild

/-- What a dry run says of a step with this result. -/
def StepResult.foreseen (r : StepResult) : StepResult :=
  { r with outcome := if r.outcome = .built then .wouldBuild else r.outcome, output := none }

namespace Build

theorem markRebuilt_foreseen (rebuilt : NameSet) (r : StepResult) :
    markRebuilt rebuilt r.foreseen = markRebuilt rebuilt r := by
  unfold markRebuilt StepResult.foreseen
  cases r.outcome <;> rfl

theorem marks_foreseen (rebuilt : NameSet) (rs : List StepResult) :
    marks rebuilt (rs.map StepResult.foreseen) = marks rebuilt rs := by
  unfold marks
  rw [List.foldl_map]
  congr
  funext rebuilt r
  exact markRebuilt_foreseen rebuilt r

/-- How the files after some steps of a real run differ from those before: what was rebuilt is there, and the files of
all other names of the rules are as they were. -/
structure Drift (rules : RuleSet) (root : String) (rebuilt : NameSet) (before after : Store) : Prop where
  there : ∀ name ∈ rebuilt, name ∈ rules.names ∧ (after.fileOf? root name).isSome
  same : ∀ name ∈ rules.names, name ∉ rebuilt → after.fileOf? root name = before.fileOf? root name

theorem drift_refl (rules : RuleSet) (root : String) (s : Store) : Drift rules root ∅ s s where
  there := by simp
  same := fun _ _ _ => rfl

variable {σ : Type u} [StoreView σ] {runner : Runner σ} {rules : RuleSet} {root : String} {rebuilt : NameSet}
  {w₀ w : σ} {t : Target}

namespace Drift

variable (h : Drift rules root rebuilt (StoreView.store w₀) (StoreView.store w)) (ht : t ∈ rules.targets)
include h ht

/-- What a dry run takes to be there is there. -/
theorem missingSource?_eq : missingSource? root true rebuilt w₀ t = missingSource? root false rebuilt w t := by
  unfold missingSource?
  refine List.find?_congr fun dep hdep => ?_
  rw [StoreView.isThere_eq, StoreView.isThere_eq, Bool.false_and, Bool.or_false, Bool.true_and]
  by_cases hm : dep ∈ rebuilt
  · have hafter : ((StoreView.store w).get? (Path.join root dep)).isSome := (h.there dep hm).2
    rw [hafter, show rebuilt.contains dep = true from hm, Bool.or_true]
  · have hsame : (StoreView.store w).get? _ = (StoreView.store w₀).get? _ := h.same dep (rules.dep_mem_names ht hdep) hm
    rw [hsame, show rebuilt.contains dep = false from Bool.not_eq_true _ ▸ hm, Bool.or_false]

theorem ofStore_eq (hnew : t.name ∉ rebuilt) : Staleness.ofStore root rebuilt (StoreView.store w₀) t =
    Staleness.ofStore root rebuilt (StoreView.store w) t :=
  Staleness.ofStore_congr (h.same _ (RuleSet.name_mem_names ht) hnew).symm fun dep hdep hm =>
    (h.same dep (RuleSet.dep_mem_names ht hdep) hm).symm

/-- A command that makes its target and keeps all other files adds its target to what was rebuilt. -/
theorem command (hd : rules.Distinct root) (hk : runner.KeepsOthers (t.invocation root) w)
    (hmade : ((StoreView.store (runner (t.invocation root) w).2).fileOf? root t.name).isSome) :
    Drift rules root (rebuilt.insert t.name) (StoreView.store w₀)
      (StoreView.store (runner (t.invocation root) w).2) where
  there := by
    intro name hm
    by_cases he : name = t.name
    · rw [he]; exact ⟨RuleSet.name_mem_names ht, hmade⟩
    · obtain ⟨hn, hthere⟩ := h.there name ((NameSet.mem_insert.mp hm).resolve_left he)
      rw [hd.fileOf?_command hk rfl (RuleSet.name_mem_names ht) hn he]
      exact ⟨hn, hthere⟩
  same := by
    intro name hn hm
    rw [NameSet.mem_insert, not_or] at hm
    rw [hd.fileOf?_command hk rfl (RuleSet.name_mem_names ht) hn hm.1]
    exact h.same name hn hm.2

end Drift

/-! ## One step -/

/-- The result of a dry step. -/
theorem result_runStep_dry (runner : Runner σ) (root : String) (rebuilt : NameSet) (w : σ) (t : Target) :
    (runStep runner root true rebuilt w t).result =
      match missingSource? root true rebuilt w t with
      | some dep => .error (.missingSource dep)
      | none =>
        let staleness := Staleness.ofStore root rebuilt (StoreView.store w) t
        .ok ⟨t.name, staleness, if staleness = .upToDate then .upToDate else .wouldBuild, none⟩ := by
  have hcase := stepCase runner root true rebuilt w t
  generalize runStep runner root true rebuilt w t = step at hcase
  cases hcase with
  | missing hm => rw [hm]
  | current hm hs => rw [hm, hs]; rfl
  | planned hm hs => rw [hm]; dsimp only; rw [if_neg hs]
  | failed _ _ hfalse => cases hfalse
  | built _ _ hfalse => cases hfalse

section Step

variable (h : Drift rules root rebuilt (StoreView.store w₀) (StoreView.store w)) (ht : t ∈ rules.targets)
  (hnew : t.name ∉ rebuilt)
include h ht hnew

/-- A dry step says what a real step comes to that ends well, and the drift goes on. -/
theorem dry_step_of_ok (hd : rules.Distinct root)
    (hk : ∀ i ∈ (runStep runner root false rebuilt w t).invoked, runner.KeepsOthers i w) {r : StepResult}
    (hr : (runStep runner root false rebuilt w t).result = .ok r) :
    (runStep runner root true rebuilt w₀ t).result = .ok r.foreseen ∧
      Drift rules root (markRebuilt rebuilt r) (StoreView.store w₀)
        (StoreView.store (runStep runner root false rebuilt w t).world) := by
  rw [result_runStep_dry, h.missingSource?_eq ht, h.ofStore_eq ht hnew]
  have hreal := stepCase runner root false rebuilt w t
  generalize runStep runner root false rebuilt w t = real at hk hr hreal
  cases hreal with
  | missing => cases hr
  | planned _ _ hfalse => cases hfalse
  | current hdeps hstale =>
    cases hr
    rw [hdeps, hstale]
    exact ⟨rfl, h⟩
  | failed => cases hr
  | built hdeps hstale _ _ _ hmade =>
    cases hr
    rw [hdeps]
    dsimp only
    rw [if_neg hstale]
    exact ⟨rfl, h.command ht hd (hk _ List.mem_cons_self) hmade⟩

/-- Where a real step fails, the dry step does so too, or it says that the target to blame would be built. -/
theorem dry_step_of_error {failure : Failure}
    (hr : (runStep runner root false rebuilt w t).result = .error failure) :
    (∃ dep, failure = .missingSource dep ∧ (runStep runner root true rebuilt w₀ t).result = .error failure) ∨
    failure.culprit? = some t.name ∧
      ∃ r, (runStep runner root true rebuilt w₀ t).result = .ok r ∧ r.target = t.name ∧ r.outcome = .wouldBuild := by
  rw [result_runStep_dry, h.missingSource?_eq ht, h.ofStore_eq ht hnew]
  have hreal := stepCase runner root false rebuilt w t
  generalize runStep runner root false rebuilt w t = real at hr hreal
  cases hreal with
  | current => cases hr
  | planned _ _ hfalse => cases hfalse
  | missing hdeps =>
    cases hr
    rw [hdeps]
    exact Or.inl ⟨_, rfl, rfl⟩
  | built => cases hr
  | failed hdeps hstale _ hblame =>
    cases hr
    rw [hdeps]
    exact Or.inr ⟨hblame, _, rfl, rfl, if_neg hstale⟩

end Step

/-! ## All steps -/

/-- A dry run foresees every real run that ends well. -/
theorem dry_of_ok (hd : rules.Distinct root) {ts : List Target} : ∀ {done : List Name} {rebuilt : NameSet} {w : σ}
    {rs : List StepResult}, rules.Orderly done ts → (∀ name ∈ rebuilt, name ∈ done) →
      Drift rules root rebuilt (StoreView.store w₀) (StoreView.store w) →
      (∀ call ∈ calls runner root rebuilt w ts, runner.KeepsOthers call.1 call.2) →
      (runSteps runner root false rebuilt w ts).result = .ok rs →
      (runSteps runner root true rebuilt w₀ ts).result = .ok (rs.map StepResult.foreseen) ∧
        Drift rules root (marks rebuilt rs) (StoreView.store w₀)
          (StoreView.store (runSteps runner root false rebuilt w ts).world) := by
  induction ts with
  | nil => intro done rebuilt w rs _ _ h _ hr; cases hr; exact ⟨rfl, h⟩
  | cons t ts ih =>
    intro done rebuilt w rs ho hdone h hk hr
    obtain ⟨ht, hnew, _, hrest⟩ := ho
    obtain ⟨r, rest, hstep, rfl, hlater⟩ := exists_of_runSteps_ok hr
    rw [calls_of_ok hstep] at hk
    obtain ⟨hdry, hdrift⟩ := dry_step_of_ok h ht (fun hm => hnew (hdone _ hm)) hd
      (fun i hi => hk (i, w) (List.mem_append_left _ (List.mem_map_of_mem hi))) hstep
    have hdone' : ∀ name ∈ markRebuilt rebuilt r, name ∈ t.name :: done := fun name hm => by
      rcases mem_markRebuilt.mp hm with hm | ⟨_, rfl⟩
      · exact List.mem_cons_of_mem _ (hdone name hm)
      · rw [target_of_runStep hstep]; exact List.mem_cons_self
    obtain ⟨hrun, hlast⟩ := ih hrest hdone' hdrift (fun call hc => hk call (List.mem_append_right _ hc)) hlater
    rw [runSteps_of_ok hstep, runSteps_of_ok hdry]
    dsimp only
    rw [markRebuilt_foreseen, (runStep_dry runner root rebuilt w₀ t).2, hrun]
    exact ⟨rfl, hlast⟩

/-- Where a real run fails, the dry run does so too, or it goes past the target to blame and says that this would be
built. -/
theorem dry_of_error (hd : rules.Distinct root) {ts : List Target} (ho : rules.Orderly [] ts)
    (hk : ∀ call ∈ calls runner root ∅ w₀ ts, runner.KeepsOthers call.1 call.2) {failure : Failure}
    (hr : (runSteps runner root false ∅ w₀ ts).result = .error failure) :
    (∃ dep, failure = .missingSource dep ∧ (runSteps runner root true ∅ w₀ ts).result = .error failure) ∨
    ∃ before t after rs, ts = before ++ t :: after ∧ failure.culprit? = some t.name ∧
      (runSteps runner root true ∅ w₀ (before ++ [t])).result = .ok rs ∧
        ∃ r ∈ rs, r.target = t.name ∧ r.outcome = .wouldBuild := by
  obtain ⟨before, t, after, rs, rfl, hbefore, hfail⟩ := exists_of_runSteps_error hr
  obtain ⟨hob, hot⟩ := RuleSet.orderly_append.mp ho
  obtain ⟨hdry, hdrift⟩ := dry_of_ok hd hob (by simp) (drift_refl rules root (StoreView.store w₀))
    (fun call hc => hk call (mem_calls_append hc)) hbefore
  have hnew : t.name ∉ marks ∅ rs := fun hm => by
    obtain ⟨r, hr, _, he⟩ := (mem_marks.mp hm).resolve_left (by simp)
    refine hot.2.1 (List.mem_append_left _ (List.mem_reverse.mpr ?_))
    rw [he, ← targets_of_runSteps hbefore]
    exact List.mem_map_of_mem hr
  have hworld := (runSteps_dry runner root ∅ w₀ before).2
  rcases dry_step_of_error hdrift hot.1 hnew hfail with ⟨dep, he, hstep⟩ | ⟨hblame, r, hstep, ht, hwould⟩
  · refine Or.inl ⟨dep, he, ?_⟩
    rw [runSteps_append_of_ok hdry]
    dsimp only
    rw [marks_foreseen, hworld, runSteps_of_error hstep]
    rfl
  · refine Or.inr ⟨before, t, after, rs.map StepResult.foreseen ++ [r], rfl, hblame, ?_, r, by simp, ht, hwould⟩
    rw [runSteps_append_of_ok hdry]
    dsimp only
    rw [marks_foreseen, hworld, runSteps_of_ok hstep]
    rfl

end Build

end Rebuild
