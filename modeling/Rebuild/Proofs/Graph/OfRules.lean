import Mathlib.Data.List.Nodup
import Rebuild.Graph.Basic

/-!
# The graph of a rule set

`Graph.ofRules` keeps what the rules say: a name has the rule that the rule set gives it (`rule?_ofRules`), and so the
dependencies of this rule (`mem_dependencies_ofRules`), and every dependency is a node of its own (`closed_ofRules`).
-/

namespace Rebuild

/-! ## Rules by their names -/

namespace RuleSet

variable {rules : RuleSet}

theorem mem_of_get? {name : Name} {t : Target} (h : rules.get? name = some t) : t ∈ rules.targets :=
  List.mem_of_find?_eq_some h

theorem name_of_get? {name : Name} {t : Target} (h : rules.get? name = some t) : t.name = name := by
  simpa using List.find?_some h

/-- Two rules for one name are the same. -/
theorem eq_of_name_eq {t u : Target} (ht : t ∈ rules.targets) (hu : u ∈ rules.targets) (h : t.name = u.name) : t = u :=
  List.inj_on_of_nodup_map rules.names_nodup ht hu h

theorem get?_of_mem {t : Target} (h : t ∈ rules.targets) : rules.get? t.name = some t := by
  cases hg : rules.get? t.name with
  | none =>
    have := List.find?_eq_none.mp hg t h
    simp at this
  | some u => rw [eq_of_name_eq (mem_of_get? hg) h (name_of_get? hg)]

theorem get?_eq_some_iff {name : Name} {t : Target} : rules.get? name = some t ↔ t ∈ rules.targets ∧ t.name = name :=
  ⟨fun h => ⟨mem_of_get? h, name_of_get? h⟩, fun ⟨ht, hname⟩ => hname ▸ get?_of_mem ht⟩

theorem get?_eq_none_iff {name : Name} : rules.get? name = none ↔ name ∉ rules.targets.map Target.name := by
  rw [get?, List.find?_eq_none]
  simp

end RuleSet

namespace Graph

/-- Every dependency of a node is a node. -/
def Closed (g : Graph) : Prop :=
  ∀ name, ∀ dep ∈ g.dependencies name, (g.node? dep).isSome

theorem dependencies_eq (g : Graph) (name : Name) :
    g.dependencies name = ((g.rule? name).map Target.deps).getD [] := by
  unfold dependencies rule?
  cases g.node? name with
  | none => rfl
  | some node => cases h : node.rule <;> simp [Node.deps, h]

/-! ## The nodes of targets -/

theorem getElem?_addTarget (nodes : Nodes) (t : Target) (name : Name) :
    (addTarget nodes t)[name]? = if t.name = name then some ⟨some t, []⟩ else nodes[name]? := by
  simp [addTarget, Std.TreeMap.getElem?_insert]

/-- The nodes of targets hold their rules. -/
theorem getElem?_addTargets : ∀ {ts : List Target}, (ts.map Target.name).Nodup → ∀ (nodes : Nodes) (name : Name),
    (ts.foldl addTarget nodes)[name]? =
      match ts.find? (·.name == name) with
      | some t => some ⟨some t, []⟩
      | none => nodes[name]?
  | [], _, _, _ => rfl
  | t :: ts, h, nodes, name => by
    obtain ⟨hnew, hnodup⟩ := List.nodup_cons.mp h
    rw [List.foldl_cons, getElem?_addTargets hnodup, List.find?_cons, getElem?_addTarget]
    by_cases he : t.name = name
    · have : ts.find? (·.name == name) = none := by
        rw [List.find?_eq_none]
        intro u hu hun
        exact hnew (List.mem_map.mpr ⟨u, hu, by rw [he]; simpa using hun⟩)
      simp [he, this]
    · rw [if_neg he, beq_eq_false_iff_ne.mpr he]

/-! ## The nodes of dependencies -/

theorem rule_addDependent (node : Node) (target : Name) : (node.addDependent target).rule = node.rule := by
  unfold Node.addDependent
  split <;> rfl

/-- A dependent is recorded once, however often it is met. -/
theorem addDependent_addDependent (node : Node) (target : Name) :
    (node.addDependent target).addDependent target = node.addDependent target := by
  have hmem : target ∈ (node.addDependent target).dependents := by
    unfold Node.addDependent
    split
    · next h => exact h
    · exact List.mem_append_right _ List.mem_cons_self
  rw [Node.addDependent, if_pos hmem]

theorem getElem?_addDependent (target : Name) (nodes : Nodes) (dep name : Name) :
    (addDependent target nodes dep)[name]? =
      if dep = name then some ((nodes[dep]?.getD .leaf).addDependent target) else nodes[name]? := by
  simp [addDependent, Std.TreeMap.getElem?_alter]

/-- The dependencies of a target become nodes that record it, and no other node changes. -/
theorem getElem?_addDependents (t : Target) (nodes : Nodes) (name : Name) :
    (addDependents nodes t)[name]? =
      if name ∈ t.deps then some ((nodes[name]?.getD .leaf).addDependent t.name) else nodes[name]? := by
  unfold addDependents
  induction t.deps generalizing nodes with
  | nil => simp
  | cons dep deps ih =>
    rw [List.foldl_cons, ih, getElem?_addDependent]
    by_cases hdep : dep = name
    · subst hdep
      rw [if_pos rfl, if_pos List.mem_cons_self, Option.getD_some, addDependent_addDependent, ite_self]
    · have hmem : name ∈ dep :: deps ↔ name ∈ deps := by simp [Ne.symm hdep]
      rw [if_neg hdep]
      simp only [hmem]

/-- Recording dependents changes no rule. -/
theorem bind_rule_foldl_addDependents (ts : List Target) (nodes : Nodes) (name : Name) :
    (ts.foldl addDependents nodes)[name]?.bind Node.rule = nodes[name]?.bind Node.rule := by
  induction ts generalizing nodes with
  | nil => rfl
  | cons t ts ih =>
    rw [List.foldl_cons, ih, getElem?_addDependents]
    split
    · rw [Option.bind_some, rule_addDependent]
      cases nodes[name]? <;> rfl
    · rfl

/-- A name is a node in the end if it was one before or is a dependency. -/
theorem isSome_foldl_addDependents (ts : List Target) (nodes : Nodes) (name : Name) :
    (ts.foldl addDependents nodes)[name]?.isSome ↔ nodes[name]?.isSome ∨ ∃ t ∈ ts, name ∈ t.deps := by
  induction ts generalizing nodes with
  | nil => simp
  | cons t ts ih =>
    rw [List.foldl_cons, ih, getElem?_addDependents, List.exists_mem_cons_iff, ← or_assoc]
    by_cases hdep : name ∈ t.deps <;> simp [hdep]

/-! ## The graph -/

/-- A name has in the graph the rule that the rule set has for it. -/
theorem rule?_ofRules (rules : RuleSet) (name : Name) : (ofRules rules).rule? name = rules.get? name := by
  show ((rules.targets.foldl addDependents (rules.targets.foldl addTarget ∅))[name]?).bind Node.rule = _
  rw [bind_rule_foldl_addDependents, getElem?_addTargets rules.names_nodup]
  unfold RuleSet.get?
  cases rules.targets.find? (·.name == name) <;> simp

theorem isTarget_ofRules {rules : RuleSet} {name : Name} :
    (ofRules rules).isTarget name = true ↔ ∃ t ∈ rules.targets, t.name = name := by
  unfold isTarget
  rw [rule?_ofRules, Option.isSome_iff_exists]
  simp only [RuleSet.get?_eq_some_iff]

/-- The dependencies of a name are those of its rule. -/
theorem mem_dependencies_ofRules {rules : RuleSet} {name dep : Name} :
    dep ∈ (ofRules rules).dependencies name ↔ ∃ t ∈ rules.targets, t.name = name ∧ dep ∈ t.deps := by
  rw [dependencies_eq, rule?_ofRules]
  constructor
  · intro h
    cases hg : rules.get? name with
    | none => rw [hg] at h; cases h
    | some t =>
      rw [hg] at h
      exact ⟨t, RuleSet.mem_of_get? hg, RuleSet.name_of_get? hg, h⟩
  · rintro ⟨t, ht, rfl, hd⟩
    rw [RuleSet.get?_of_mem ht]
    exact hd

theorem closed_ofRules (rules : RuleSet) : (ofRules rules).Closed := by
  intro name dep h
  obtain ⟨t, ht, _, hd⟩ := mem_dependencies_ofRules.mp h
  exact (isSome_foldl_addDependents _ _ _).mpr (Or.inr ⟨t, ht, hd⟩)

end Graph

end Rebuild
