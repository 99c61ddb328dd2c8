import Rebuild.Proofs.Closure

/-!
# The order of a plan

The steps of a plan are rules of the set, none twice, and each comes after the rules of its dependencies
(`orderly_of_planFor`). A request whose plan has a step gets the same plan whatever files are there
(`planFor_eq_of_mem`): only a name without a rule is looked for on disk, and its plan has no step.
-/

namespace Rebuild

namespace RuleSet

/-- Rules of the set that can be gone through in order once the names in `done` are behind: the target of each is new,
and those of its dependencies that have rules are behind. -/
def Orderly (rules : RuleSet) : List Name → List Target → Prop
  | _, [] => True
  | done, t :: ts =>
    t ∈ rules.targets ∧ t.name ∉ done ∧ (∀ dep ∈ t.deps, (rules.get? dep).isSome → dep ∈ done) ∧
      rules.Orderly (t.name :: done) ts

variable {rules : RuleSet}

theorem orderly_append : ∀ {done : List Name} {ts us : List Target},
    rules.Orderly done (ts ++ us) ↔ rules.Orderly done ts ∧ rules.Orderly ((ts.map Target.name).reverse ++ done) us
  | _, [], _ => by simp [Orderly]
  | done, t :: ts, us => by
    simp only [List.cons_append, Orderly, orderly_append, List.map_cons, List.reverse_cons, List.append_assoc,
      List.nil_append, and_assoc]

namespace Orderly

theorem mem_targets : ∀ {done : List Name} {ts : List Target}, rules.Orderly done ts → ∀ t ∈ ts, t ∈ rules.targets
  | _, [], _, _, h => by cases h
  | _, _ :: _, ho, t, h => by
    rcases List.mem_cons.mp h with rfl | h
    · exact ho.1
    · exact mem_targets ho.2.2.2 t h

/-- No step is behind already. -/
theorem not_mem_done : ∀ {done : List Name} {ts : List Target}, rules.Orderly done ts → ∀ t ∈ ts, t.name ∉ done
  | _, [], _, _, h => by cases h
  | done, u :: ts, ho, t, h => by
    rcases List.mem_cons.mp h with rfl | h
    · exact ho.2.1
    · exact fun hm => not_mem_done ho.2.2.2 t h (List.mem_cons_of_mem _ hm)

/-- What is behind or has no rule is no later step. -/
theorem not_mem_names {done : List Name} {ts : List Target} (ho : rules.Orderly done ts) {name : Name}
    (h : (rules.get? name).isSome → name ∈ done) : name ∉ ts.map Target.name := by
  intro hm
  obtain ⟨t, ht, rfl⟩ := List.mem_map.mp hm
  exact ho.not_mem_done t ht (h (by rw [get?_of_mem (ho.mem_targets t ht)]; rfl))

/-- Later steps are for other targets. -/
theorem name_ne {done : List Name} {t : Target} {ts : List Target} (ho : rules.Orderly done (t :: ts)) :
    ∀ u ∈ ts, u.name ≠ t.name := fun u hu he =>
  ho.2.2.2.not_mem_done u hu (he ▸ List.mem_cons_self)

/-- No target depends on itself. -/
theorem name_not_mem_deps {done : List Name} {t : Target} {ts : List Target} (ho : rules.Orderly done (t :: ts)) :
    t.name ∉ t.deps := fun hm =>
  ho.2.1 (ho.2.2.1 _ hm (by rw [get?_of_mem ho.1]; rfl))

end Orderly

end RuleSet

namespace Graph

variable {rules : RuleSet}

theorem mem_names_filterMap_get? {l : List Name} {name : Name} :
    name ∈ (l.filterMap rules.get?).map Target.name ↔ name ∈ l ∧ (rules.get? name).isSome := by
  simp only [List.mem_map, List.mem_filterMap]
  constructor
  · rintro ⟨t, ⟨n, hn, ht⟩, rfl⟩
    rw [RuleSet.name_of_get? ht, ht]
    exact ⟨hn, rfl⟩
  · rintro ⟨hn, hs⟩
    obtain ⟨t, ht⟩ := Option.isSome_iff_exists.mp hs
    exact ⟨t, ⟨name, hn, ht⟩, RuleSet.name_of_get? ht⟩

/-- The rules of what a visit lists can be gone through in order. -/
theorem orderly_of_listed : ∀ {l : List Name}, (ofRules rules).Listed l →
    rules.Orderly [] (l.reverse.filterMap rules.get?)
  | [], _ => trivial
  | name :: l, ⟨hnew, hdeps, hl⟩ => by
    rw [List.reverse_cons, List.filterMap_append, RuleSet.orderly_append]
    refine ⟨orderly_of_listed hl, ?_⟩
    cases ht : rules.get? name with
    | none => simp [ht, RuleSet.Orderly]
    | some t =>
      have hname : t.name = name := RuleSet.name_of_get? ht
      have hmem : t ∈ rules.targets := RuleSet.mem_of_get? ht
      have hdone : ∀ n, n ∈ ((l.reverse.filterMap rules.get?).map Target.name).reverse ++ [] ↔
          n ∈ l ∧ (rules.get? n).isSome := fun n => by
        rw [List.append_nil, List.mem_reverse, mem_names_filterMap_get?, List.mem_reverse]
      rw [List.filterMap_cons, ht]
      refine ⟨hmem, fun hm => hnew (hname ▸ ((hdone _).mp hm).1), fun dep hd hs => (hdone dep).mpr ⟨?_, hs⟩, trivial⟩
      exact hdeps dep (mem_dependencies_ofRules.mpr ⟨t, hmem, hname, hd⟩)

variable {σ : Type u} [FileView σ] {root : String} {w : σ} {target : Option Name} {plan : Plan}

/-- A plan comes from the closure of what was requested. -/
theorem planFrom_of_planFor (h : (ofRules rules).planFor root w target = .ok plan) :
    PlanFrom rules (target.elim (ofRules rules).targets ([·])) plan := by
  rcases planFor_cases (ofRules rules) root w target with ⟨_, _, _, hunknown⟩ | ⟨_, hplan⟩
  · rw [hunknown] at h
    cases h
  · exact planFrom_of_map (hplan.symm.trans h)

/-- The steps of a plan can be gone through in order. -/
theorem orderly_of_planFor (h : (ofRules rules).planFor root w target = .ok plan) : rules.Orderly [] plan.steps := by
  have hplan := planFrom_of_planFor h
  have := orderly_of_listed (listed_of_postOrder (closed_ofRules rules) (closure_eq_ok.mp hplan.closure)).1
  rwa [List.reverse_reverse, ← hplan.steps] at this

/-- A name without a rule needs no step. -/
theorem steps_eq_nil_of_leaf {name : Name} (h : (ofRules rules).planFor root w (some name) = .ok plan)
    (hleaf : rules.get? name = none) : plan.steps = [] := by
  have hplan := planFrom_of_planFor h
  rw [hplan.steps, List.filterMap_eq_nil_iff]
  intro n hn
  obtain ⟨r, hr, hreach⟩ := ((buildOrder_of_closure hplan.closure).mem_iff n).mp hn
  obtain rfl : r = name := by simpa using hr
  have hdeps : (ofRules rules).dependencies r = [] := by rw [dependencies_eq, rule?_ofRules, hleaf]; rfl
  rw [eq_of_reaches_leaf hreach hdeps, hleaf]

/-- A plan that has a step does not depend on the files that are there. -/
theorem planFor_eq_of_mem {t : Target} (h : (ofRules rules).planFor root w target = .ok plan) (ht : t ∈ plan.steps)
    {σ' : Type v} [FileView σ'] (w' : σ') : (ofRules rules).planFor root w' target = .ok plan := by
  cases target with
  | none => exact h
  | some name =>
    have hrule : (ofRules rules).isTarget name = true := by
      cases hg : rules.get? name with
      | none => rw [steps_eq_nil_of_leaf h hg] at ht; cases ht
      | some t => exact isTarget_ofRules.mpr ⟨t, RuleSet.get?_eq_some_iff.mp hg⟩
    change ((ofRules rules).resolve root w name).map _ = .ok plan at h
    show ((ofRules rules).resolve root w' name).map _ = .ok plan
    unfold resolve at h ⊢
    rw [hrule] at h ⊢
    exact h

end Graph

end Rebuild
