import Mathlib.Data.List.Perm.Basic
import Rebuild.Plan
import Rebuild.Proofs.Graph.Cycle
import Rebuild.Store

/-!
# Closures and plans

What the visits of a graph mean for requests. Where a closure is found, it is an order in which everything that the
roots reach can be built, and the steps of a plan are the rules in it (`closure_buildOrder`). It is not found exactly if
a root reaches a cycle, and then the failure shows such a cycle (`closure_fails_iff_cycle`); cycles elsewhere do no
harm.
-/

namespace Rebuild

namespace Graph

variable {g : Graph} {roots order : List Name} {name : Name} {plan : Plan} {failure : Failure}

/-! ## Closures and visits -/

theorem closure_eq_ok : g.closure roots = .ok order ↔ g.postOrder roots = .ok order := by
  unfold closure
  cases g.postOrder roots <;> simp [Except.mapError]

theorem closure_eq_error :
    g.closure roots = .error failure ↔ ∃ path, g.postOrder roots = .error path ∧ failure = .cyclicDependency path := by
  unfold closure
  cases g.postOrder roots <;> simp [Except.mapError, eq_comm]

theorem map_planOfClosure_eq_ok :
    (g.closure roots).map g.planOfClosure = .ok plan ↔
      g.closure roots = .ok plan.closure ∧ plan.steps = plan.closure.filterMap g.rule? := by
  cases g.closure roots with
  | error failure => simp [Except.map]
  | ok order =>
    obtain ⟨steps, closure⟩ := plan
    simp only [Except.map, planOfClosure, Except.ok.injEq, Plan.mk.injEq]
    constructor
    · rintro ⟨rfl, rfl⟩; exact ⟨rfl, rfl⟩
    · rintro ⟨rfl, rfl⟩; exact ⟨rfl, rfl⟩

theorem map_planOfClosure_eq_error :
    (g.closure roots).map g.planOfClosure = .error failure ↔ g.closure roots = .error failure := by
  cases g.closure roots <;> simp [Except.map]

/-- A request is for an unknown name, or its plan comes from the closure of what it asks for. -/
theorem planFor_cases {σ : Type u} [FileView σ] (g : Graph) (root : String) (w : σ) (target : Option Name) :
    (∃ name, target = some name ∧ (Path.isHere name = true ∨
        g.isTarget name = false ∧ FileView.isThere w (Path.join root name) = false) ∧
      g.planFor root w target = .error (.unknownTarget name)) ∨
    ((∀ name, target = some name → Path.isHere name = false ∧
        (g.isTarget name = true ∨ FileView.isThere w (Path.join root name) = true)) ∧
      g.planFor root w target = (g.closure (target.elim g.targets ([·]))).map g.planOfClosure) := by
  cases target with
  | none => exact Or.inr ⟨by simp, rfl⟩
  | some name =>
    have hplan : g.planFor root w (some name) = (g.resolve root w name).map g.planOfClosure := rfl
    rw [hplan, resolve]
    cases hhere : Path.isHere name with
    | true => exact Or.inl ⟨name, rfl, Or.inl hhere, rfl⟩
    | false =>
      cases htarget : g.isTarget name with
      | true => exact Or.inr ⟨by rintro _ ⟨⟩; exact ⟨hhere, Or.inl htarget⟩, rfl⟩
      | false =>
        cases hthere : FileView.isThere w (Path.join root name) with
        | true => exact Or.inr ⟨by rintro _ ⟨⟩; exact ⟨hhere, Or.inr hthere⟩, rfl⟩
        | false => exact Or.inl ⟨name, rfl, Or.inr ⟨htarget, hthere⟩, rfl⟩

/-! ## Names and rules -/

variable {rules : RuleSet}

/-- Only a name with a rule depends on something. -/
theorem exists_target_of_dependsOn {a b : Name} (h : (ofRules rules).DependsOn a b) :
    ∃ t ∈ rules.targets, t.name = a := by
  obtain ⟨dep, hdep, _⟩ := Relation.TransGen.head'_iff.mp h
  obtain ⟨t, ht, hname, _⟩ := mem_dependencies_ofRules.mp hdep
  exact ⟨t, ht, hname⟩

/-- The rules of names without repetition are without repetition. -/
theorem nodup_filterMap_get? {l : List Name} (h : l.Nodup) : (l.filterMap rules.get?).Nodup :=
  h.filterMap fun a b t ha hb => by rw [← RuleSet.name_of_get? ha, ← RuleSet.name_of_get? hb]

/-! ## Closures that are found -/

/-- A closure that is found is an order for building. -/
theorem buildOrder_of_closure (h : (ofRules rules).closure roots = .ok order) :
    (ofRules rules).BuildOrder roots order :=
  buildOrder_of_postOrder (closed_ofRules rules) (closure_eq_ok.mp h)

/-- The steps of a plan are the rules of the names in its closure, in the order of the closure. -/
structure PlanFrom (rules : RuleSet) (roots : List Name) (plan : Plan) : Prop where
  closure : (ofRules rules).closure roots = .ok plan.closure
  steps : plan.steps = plan.closure.filterMap rules.get?

theorem planFrom_of_map (h : ((ofRules rules).closure roots).map (ofRules rules).planOfClosure = .ok plan) :
    PlanFrom rules roots plan := by
  obtain ⟨hclosure, hsteps⟩ := map_planOfClosure_eq_ok.mp h
  rw [funext (rule?_ofRules rules)] at hsteps
  exact ⟨hclosure, hsteps⟩

namespace PlanFrom

/-- A rule is a step if its target is in the closure. -/
theorem mem_steps (h : PlanFrom rules roots plan) {t : Target} :
    t ∈ plan.steps ↔ t ∈ rules.targets ∧ t.name ∈ plan.closure := by
  rw [h.steps, List.mem_filterMap]
  constructor
  · rintro ⟨name, hn, ht⟩
    rw [RuleSet.name_of_get? ht]
    exact ⟨RuleSet.mem_of_get? ht, hn⟩
  · rintro ⟨ht, hn⟩
    exact ⟨t.name, hn, RuleSet.get?_of_mem ht⟩

/-- No rule is a step twice. -/
theorem nodup_steps (h : PlanFrom rules roots plan) : plan.steps.Nodup :=
  h.steps ▸ nodup_filterMap_get? (buildOrder_of_closure h.closure).nodup

theorem nodup_names (h : PlanFrom rules roots plan) : (plan.steps.map Target.name).Nodup :=
  h.nodup_steps.map_on fun _ ht _ hu => RuleSet.eq_of_name_eq (h.mem_steps.mp ht).1 (h.mem_steps.mp hu).1

/-- A name without a rule is no step. -/
theorem leaf_not_mem (h : PlanFrom rules roots plan) (hleaf : rules.get? name = none) :
    name ∉ plan.steps.map Target.name := by
  intro hm
  obtain ⟨t, ht, rfl⟩ := List.mem_map.mp hm
  rw [RuleSet.get?_of_mem (h.mem_steps.mp ht).1] at hleaf
  cases hleaf

/-- The plan for a target ends with this target. -/
theorem getLast?_steps {t : Target} (h : PlanFrom rules [t.name] plan) (ht : t ∈ rules.targets) :
    plan.steps.getLast? = some t := by
  obtain ⟨before, he⟩ := (buildOrder_of_closure h.closure).exists_eq_concat
  rw [h.steps, he, List.filterMap_append]
  simp [RuleSet.get?_of_mem ht]

/-- The plan for all targets holds every rule once. -/
theorem perm_targets (h : PlanFrom rules (rules.targets.map Target.name) plan) : plan.steps.Perm rules.targets := by
  have horder := buildOrder_of_closure h.closure
  refine (List.perm_ext_iff_of_nodup h.nodup_steps (List.Nodup.of_map _ rules.names_nodup)).mpr fun t => ?_
  rw [h.mem_steps]
  exact ⟨And.left, fun ht => ⟨ht, horder.mem_of_mem_roots (List.mem_map_of_mem ht)⟩⟩

end PlanFrom

/-! ## Closures that are not found -/

/-- No closure is found exactly if a root reaches a name that depends on itself. -/
theorem exists_closure_error_iff : (∃ failure, (ofRules rules).closure roots = .error failure) ↔
    ∃ root ∈ roots, ∃ name, (ofRules rules).Reaches root name ∧ (ofRules rules).DependsOn name name := by
  rw [← exists_postOrder_error_iff (closed_ofRules rules)]
  simp [closure_eq_error]

/-- The failure shows a cycle of targets that roots reach. -/
theorem exists_cycle_of_closure (h : (ofRules rules).closure roots = .error failure) :
    ∃ path, failure = .cyclicDependency path ∧ (ofRules rules).IsCycle path ∧
      ∀ name ∈ path, (∃ t ∈ rules.targets, t.name = name) ∧ ∃ root ∈ roots, (ofRules rules).Reaches root name := by
  obtain ⟨path, hpath, rfl⟩ := closure_eq_error.mp h
  obtain ⟨hcycle, hreached⟩ := isCycle_of_postOrder_error (closed_ofRules rules) hpath
  exact ⟨path, rfl, hcycle, fun name hn => ⟨exists_target_of_dependsOn (hcycle.dependsOn_self hn), hreached name hn⟩⟩

/-- A name of a closure has a closure of its own, which is part of it. -/
theorem exists_closure_of_mem (h : (ofRules rules).closure roots = .ok order) (hn : name ∈ order) :
    ∃ part, (ofRules rules).closure [name] = .ok part ∧ ∀ x ∈ part, x ∈ order := by
  have horder := buildOrder_of_closure h
  cases hpart : (ofRules rules).closure [name] with
  | error failure =>
    obtain ⟨root, hroot, x, hreach, hd⟩ := exists_closure_error_iff.mp ⟨failure, hpart⟩
    rw [List.mem_singleton.mp hroot] at hreach
    exact absurd hd (horder.not_dependsOn_self (horder.mem_of_reaches hn hreach))
  | ok part =>
    refine ⟨part, rfl, fun x hx => ?_⟩
    obtain ⟨root, hroot, hreach⟩ := ((buildOrder_of_closure hpart).mem_iff x).mp hx
    rw [List.mem_singleton.mp hroot] at hreach
    exact horder.mem_of_reaches hn hreach

/-- There is a plan for all targets unless one of them depends on itself. -/
theorem exists_planAll_error_iff : (∃ failure, (ofRules rules).planAll = .error failure) ↔
    ∃ t ∈ rules.targets, (ofRules rules).DependsOn t.name t.name := by
  simp only [planAll, map_planOfClosure_eq_error, exists_closure_error_iff]
  constructor
  · rintro ⟨_, _, name, _, hd⟩
    obtain ⟨t, ht, rfl⟩ := exists_target_of_dependsOn hd
    exact ⟨t, ht, hd⟩
  · rintro ⟨t, ht, hd⟩
    exact ⟨t.name, List.mem_map_of_mem ht, t.name, .refl, hd⟩

/-- There is a plan for a name unless it reaches a name that depends on itself. -/
theorem exists_plan_error_iff : (∃ failure, (ofRules rules).plan name = .error failure) ↔
    ∃ x, (ofRules rules).Reaches name x ∧ (ofRules rules).DependsOn x x := by
  simp only [plan, map_planOfClosure_eq_error, exists_closure_error_iff, List.mem_singleton, exists_eq_left]

/-- A request for a name meets only cycles that the name reaches. -/
theorem exists_cycle_of_planFor {σ : Type u} [FileView σ] {root : String} {w : σ} {path : List Name}
    (h : (ofRules rules).planFor root w (some name) = .error (.cyclicDependency path)) :
    ∃ x, (ofRules rules).Reaches name x ∧ (ofRules rules).DependsOn x x := by
  rcases planFor_cases (ofRules rules) root w (some name) with ⟨_, _, _, hunknown⟩ | ⟨_, hplan⟩
  · rw [hunknown] at h
    cases h
  · exact exists_plan_error_iff.mp ⟨_, hplan.symm.trans h⟩

end Graph

/-- **Closures are orders for building.** The closure of any roots, where it is found, holds exactly the names that a
root reaches, each once and after all its dependencies. The steps of a plan are the rules in its closure, in this order,
and none of them is for a leaf; the plan for a target ends with this target, and the plan for all targets holds every
rule once. -/
theorem closure_buildOrder (rules : RuleSet) :
    let g := Graph.ofRules rules
    (∀ roots order, g.closure roots = .ok order →
      order.Nodup ∧ (∀ name, name ∈ order ↔ ∃ root ∈ roots, g.Reaches root name) ∧
        ∀ before name after, order = before ++ name :: after → ∀ dep ∈ g.dependencies name, dep ∈ before) ∧
    (∀ name plan, g.plan name = .ok plan →
      g.closure [name] = .ok plan.closure ∧ plan.steps = plan.closure.filterMap rules.get? ∧
        (∀ leaf, rules.get? leaf = none → leaf ∉ plan.steps.map Target.name) ∧
        ∀ t ∈ rules.targets, t.name = name → plan.steps.getLast? = some t) ∧
    ∀ plan, g.planAll = .ok plan →
      g.closure (rules.targets.map Target.name) = .ok plan.closure ∧ plan.steps = plan.closure.filterMap rules.get? ∧
        (∀ leaf, rules.get? leaf = none → leaf ∉ plan.steps.map Target.name) ∧ plan.steps.Perm rules.targets := by
  intro g
  refine ⟨fun roots order h => ?_, fun name plan h => ?_, fun plan h => ?_⟩
  · have horder := Graph.buildOrder_of_closure h
    exact ⟨horder.nodup, horder.mem_iff, horder.deps_before⟩
  · have hplan := Graph.planFrom_of_map h
    refine ⟨hplan.closure, hplan.steps, fun _ => hplan.leaf_not_mem, ?_⟩
    rintro t ht rfl
    exact hplan.getLast?_steps ht
  · have hplan := Graph.planFrom_of_map h
    exact ⟨hplan.closure, hplan.steps, fun _ => hplan.leaf_not_mem, hplan.perm_targets⟩

/-- Three rules, of which `E` is made from `C` and `D`, and these both from the leaves `A` and `B`. -/
def RuleSet.diamond : RuleSet where
  targets := [⟨"E", ["C", "D"], "cat", ["C", "D"]⟩, ⟨"C", ["A", "B"], "cat", ["A", "B"]⟩,
    ⟨"D", ["A", "B"], "cat", ["A", "B"]⟩]
  names_nodup := by decide
  deps_ne_nil := by decide

/-- Roots may be repeated, lie below each other, be leaves, or be no nodes at all. -/
theorem closure_buildOrder_diamond :
    let g := Graph.ofRules .diamond
    let order := ["A", "B", "C", "D", "E", "Z"]
    g.closure ["E", "C", "A", "Z", "E"] = .ok order ∧ order.Nodup ∧
      (∀ name, name ∈ order ↔ ∃ root ∈ ["E", "C", "A", "Z", "E"], g.Reaches root name) ∧
      ∃ plan, g.planAll = .ok plan ∧ plan.steps.map Target.name = ["C", "D", "E"] ∧
        plan.steps.Perm RuleSet.diamond.targets := by
  intro g order
  have hok : (g.closure ["E", "C", "A", "Z", "E"]).toOption = some order := by decide +kernel
  have hplan : g.planAll.toOption.map (·.steps.map Target.name) = some ["C", "D", "E"] := by decide +kernel
  obtain ⟨hclosure, _, hall⟩ := closure_buildOrder .diamond
  cases h : g.closure ["E", "C", "A", "Z", "E"] with
  | error failure => rw [h] at hok; cases hok
  | ok found =>
    rw [h] at hok
    have hfound : found = order := Option.some.inj hok
    rw [hfound] at h ⊢
    obtain ⟨hnodup, hmem, _⟩ := hclosure _ order h
    cases hp : g.planAll with
    | error failure => rw [hp] at hplan; cases hplan
    | ok plan =>
      rw [hp] at hplan
      obtain ⟨_, _, _, hperm⟩ := hall plan hp
      exact ⟨rfl, hnodup, hmem, plan, rfl, Option.some.inj hplan, hperm⟩

/-- **Cycles are what closures fail of.** The closure of any roots fails exactly if one of them reaches a name that
depends on itself. The failure then shows a path of targets, all reached by roots, that leads along dependencies from a
name back to it and meets no other name twice. So the plan for all targets fails exactly if some target depends on
itself, and the plan for a name, also where it is requested, only if this name reaches a cycle. -/
theorem closure_fails_iff_cycle {σ : Type u} [FileView σ] (rules : RuleSet) (root : String) (w : σ) :
    let g := Graph.ofRules rules
    (∀ roots, (∃ failure, g.closure roots = .error failure) ↔
      ∃ r ∈ roots, ∃ name, g.Reaches r name ∧ g.DependsOn name name) ∧
    (∀ roots failure, g.closure roots = .error failure → ∃ path, failure = .cyclicDependency path ∧ g.IsCycle path ∧
      ∀ name ∈ path, (∃ t ∈ rules.targets, t.name = name) ∧ ∃ r ∈ roots, g.Reaches r name) ∧
    ((∃ failure, g.planAll = .error failure) ↔ ∃ t ∈ rules.targets, g.DependsOn t.name t.name) ∧
    (∀ name, (∃ failure, g.plan name = .error failure) ↔ ∃ x, g.Reaches name x ∧ g.DependsOn x x) ∧
    ∀ name path, g.planFor root w (some name) = .error (.cyclicDependency path) →
      ∃ x, g.Reaches name x ∧ g.DependsOn x x := by
  exact ⟨fun _ => Graph.exists_closure_error_iff, fun _ _ => Graph.exists_cycle_of_closure,
    Graph.exists_planAll_error_iff, fun _ => Graph.exists_plan_error_iff, fun _ _ => Graph.exists_cycle_of_planFor⟩

/-- Four rules: `A` needs `B`, `B` needs `C`, `C` needs `A` again, and `D` needs `A`. -/
def RuleSet.ring : RuleSet where
  targets := [⟨"A", ["B"], "cat", ["B"]⟩, ⟨"B", ["C"], "cat", ["C"]⟩, ⟨"C", ["A"], "cat", ["A"]⟩,
    ⟨"D", ["A"], "cat", ["A"]⟩]
  names_nodup := by decide
  deps_ne_nil := by decide

/-- The cycle that `D` reaches is shown without `D`. -/
theorem closure_fails_iff_cycle_ring :
    let g := Graph.ofRules .ring
    let path := ["A", "B", "C", "A"]
    g.closure ["D"] = .error (.cyclicDependency path) ∧ g.IsCycle path ∧
      (∀ name ∈ path, ∃ t ∈ RuleSet.ring.targets, t.name = name) ∧
      ∃ root ∈ ["D"], ∃ name, g.Reaches root name ∧ g.DependsOn name name := by
  intro g path
  have herror : (match g.closure ["D"] with | .ok _ => none | .error failure => some failure) =
      some (.cyclicDependency path) := by decide +kernel
  obtain ⟨hfails, hshown, _⟩ := closure_fails_iff_cycle .ring "." Store.empty
  cases h : g.closure ["D"] with
  | ok order => rw [h] at herror; cases herror
  | error failure =>
    rw [h] at herror
    obtain ⟨path', hpath, hcycle, hnames⟩ := hshown _ failure h
    rw [Option.some.inj herror] at hpath ⊢
    cases hpath
    exact ⟨rfl, hcycle, fun name hn => (hnames name hn).1, (hfails ["D"]).mp ⟨failure, h⟩⟩

end Rebuild
