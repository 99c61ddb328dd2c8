import Rebuild.Proofs.Graph.OfRules

/-!
# Edges in both directions

- A name is a node of the graph of a rule set exactly if it has a rule or is a dependency (`isSome_node?_ofRules`);
- recording the dependencies of targets appends, to the dependents of a name, the targets that name it, each once and in
  order (`dependents_foldl_addDependents`), so a name has the dependents that the rules give it (`dependents_ofRules`).

Together: `ofRules_faithful`.
-/

namespace Rebuild.Graph

variable {rules : RuleSet}

/-! ## Which names are nodes -/

theorem isSome_foldl_addTarget {ts : List Target} (h : (ts.map Target.name).Nodup) (name : Name) :
    (ts.foldl addTarget ∅)[name]?.isSome ↔ ∃ t ∈ ts, t.name = name := by
  rw [getElem?_addTargets h]
  cases hfind : ts.find? (·.name == name) with
  | some t =>
    have hname : t.name = name := by simpa using List.find?_some hfind
    exact iff_of_true rfl ⟨t, List.mem_of_find?_eq_some hfind, hname⟩
  | none =>
    refine iff_of_false (by simp) ?_
    rintro ⟨t, ht, hname⟩
    have := List.find?_eq_none.mp hfind t ht
    simp [hname] at this

/-- The nodes are the names of the rules. -/
theorem isSome_node?_ofRules {name : Name} :
    ((ofRules rules).node? name).isSome ↔
      (∃ t ∈ rules.targets, t.name = name) ∨ ∃ t ∈ rules.targets, name ∈ t.deps := by
  rw [← isSome_foldl_addTarget rules.names_nodup]
  exact isSome_foldl_addDependents rules.targets _ name

/-- A node carries the rule of its name. -/
theorem exists_node?_rule {name : Name} {t : Target} :
    (∃ node, (ofRules rules).node? name = some node ∧ node.rule = some t) ↔ t ∈ rules.targets ∧ t.name = name := by
  rw [← RuleSet.get?_eq_some_iff, ← rule?_ofRules]
  exact Option.bind_eq_some_iff.symm

/-- A node without a rule is a dependency without a rule. -/
theorem exists_node?_leaf {name : Name} :
    (∃ node, (ofRules rules).node? name = some node ∧ node.rule = none) ↔
      (∃ t ∈ rules.targets, name ∈ t.deps) ∧ ∀ t ∈ rules.targets, t.name ≠ name := by
  constructor
  · rintro ⟨node, hnode, hrule⟩
    have hnone : ∀ t ∈ rules.targets, t.name ≠ name := by
      intro t ht hname
      obtain ⟨node', hnode', hrule'⟩ := exists_node?_rule.mpr ⟨ht, hname⟩
      rw [hnode] at hnode'
      cases hnode'
      rw [hrule] at hrule'
      cases hrule'
    have hsome : ((ofRules rules).node? name).isSome := by rw [hnode]; rfl
    refine ⟨(isSome_node?_ofRules.mp hsome).resolve_left ?_, hnone⟩
    rintro ⟨t, ht, hname⟩
    exact hnone t ht hname
  · rintro ⟨hdep, hnone⟩
    obtain ⟨node, hnode⟩ := Option.isSome_iff_exists.mp (isSome_node?_ofRules.mpr (Or.inr hdep))
    refine ⟨node, hnode, ?_⟩
    cases hrule : node.rule with
    | none => rfl
    | some t =>
      obtain ⟨ht, hname⟩ := exists_node?_rule.mp ⟨node, hnode, hrule⟩
      exact absurd hname (hnone t ht)

/-! ## Who depends on a name -/

/-- The dependents recorded for a name, none if it is no node. -/
def dependentsIn (nodes : Nodes) (name : Name) : List Name :=
  (nodes[name]?.getD .leaf).dependents

theorem dependents_eq (g : Graph) (name : Name) : g.dependents name = dependentsIn g.nodes name := by
  unfold dependents dependentsIn node?
  cases g.nodes[name]? <;> rfl

/-- A target that is not among the dependents of its dependencies is put after them. -/
theorem dependentsIn_addDependents {t : Target} {nodes : Nodes} {name : Name}
    (hnew : t.name ∉ dependentsIn nodes name) :
    dependentsIn (addDependents nodes t) name = dependentsIn nodes name ++ if name ∈ t.deps then [t.name] else [] := by
  unfold dependentsIn at hnew ⊢
  rw [getElem?_addDependents]
  split
  · rw [Option.getD_some, Node.addDependent, if_neg hnew]
  · rw [List.append_nil]

/-- Targets that are not among the dependents of a name are put after them, in order, if they depend on it. -/
theorem dependents_foldl_addDependents {ts : List Target} {name : Name} :
    ∀ {nodes : Nodes}, (ts.map Target.name).Nodup →
    (∀ t ∈ ts, t.name ∉ dependentsIn nodes name) →
    dependentsIn (ts.foldl addDependents nodes) name =
      dependentsIn nodes name ++ (ts.filter (name ∈ ·.deps)).map Target.name := by
  induction ts with
  | nil => simp
  | cons t ts ih =>
    intro nodes hnodup hnew
    obtain ⟨hfresh, hnodup⟩ := List.nodup_cons.mp hnodup
    have hstep := dependentsIn_addDependents (hnew t List.mem_cons_self)
    have hnew' : ∀ u ∈ ts, u.name ∉ dependentsIn (addDependents nodes t) name := by
      intro u hu hmem
      rw [hstep] at hmem
      rcases List.mem_append.mp hmem with hmem | hmem
      · exact hnew u (List.mem_cons_of_mem _ hu) hmem
      · have hname : u.name = t.name := by
          split at hmem
          · exact List.mem_singleton.mp hmem
          · cases hmem
        exact hfresh (hname ▸ List.mem_map_of_mem hu)
    rw [List.foldl_cons, ih hnodup hnew', hstep]
    by_cases hdep : name ∈ t.deps <;> simp [hdep]

/-- The nodes of targets have no dependents before dependencies are recorded. -/
theorem dependentsIn_foldl_addTarget {ts : List Target} (h : (ts.map Target.name).Nodup) (name : Name) :
    dependentsIn (ts.foldl addTarget ∅) name = [] := by
  unfold dependentsIn
  rw [getElem?_addTargets h]
  cases ts.find? (·.name == name) with
  | some t => rfl
  | none => simp [Node.leaf]

/-- The dependents of a name are the targets that depend on it, in the order of the rules. -/
theorem dependents_ofRules (rules : RuleSet) (name : Name) :
    (ofRules rules).dependents name = (rules.targets.filter (name ∈ ·.deps)).map Target.name := by
  have hempty := dependentsIn_foldl_addTarget rules.names_nodup name
  rw [dependents_eq]
  unfold ofRules
  rw [dependents_foldl_addDependents rules.names_nodup (by simp [hempty]), hempty, List.nil_append]

theorem mem_dependents_ofRules {name target : Name} :
    target ∈ (ofRules rules).dependents name ↔ name ∈ (ofRules rules).dependencies target := by
  rw [dependents_ofRules, mem_dependencies_ofRules]
  simp only [List.mem_map, List.mem_filter, decide_eq_true_eq]
  constructor
  · rintro ⟨t, ⟨ht, hdep⟩, hname⟩
    exact ⟨t, ht, hname, hdep⟩
  · rintro ⟨t, ht, hname, hdep⟩
    exact ⟨t, ⟨ht, hdep⟩, hname⟩

/-- **The graph says what the rules say, in both directions.** A name is a node with a rule exactly if it has this rule,
a leaf exactly if it is a dependency and has no rule, and no node otherwise. The dependencies of a target are those of
its rule, in order and with repetitions, and other names have none. A target is among the dependents of a name exactly
if the name is among its dependencies; each dependent is listed once, in the order of the rules, even where a rule names
a dependency again or names its own target. Every dependency of a node is a node. -/
theorem ofRules_faithful (rules : RuleSet) :
    let g := ofRules rules
    (∀ name t, (∃ node, g.node? name = some node ∧ node.rule = some t) ↔ t ∈ rules.targets ∧ t.name = name) ∧
    (∀ name, (∃ node, g.node? name = some node ∧ node.rule = none) ↔
      (∃ t ∈ rules.targets, name ∈ t.deps) ∧ ∀ t ∈ rules.targets, t.name ≠ name) ∧
    (∀ name, g.node? name = none ↔ ∀ t ∈ rules.targets, t.name ≠ name ∧ name ∉ t.deps) ∧
    (∀ t ∈ rules.targets, g.dependencies t.name = t.deps) ∧
    (∀ name, (∀ t ∈ rules.targets, t.name ≠ name) → g.dependencies name = []) ∧
    (∀ x y, y ∈ g.dependents x ↔ x ∈ g.dependencies y) ∧
    (∀ x, (g.dependents x).Nodup ∧ (g.dependents x).Sublist (rules.targets.map Target.name)) ∧
    ∀ name node, g.node? name = some node → ∀ dep ∈ node.deps, (g.node? dep).isSome := by
  intro g
  have hdeps : ∀ name, g.dependencies name = ((rules.get? name).map Target.deps).getD [] := by
    intro name
    rw [dependencies_eq, rule?_ofRules]
  refine ⟨fun name t => exists_node?_rule, fun name => exists_node?_leaf, ?_, ?_, ?_, fun x y => mem_dependents_ofRules,
    ?_, ?_⟩
  · intro name
    rw [← Option.not_isSome_iff_eq_none, isSome_node?_ofRules]
    push Not
    exact forall₂_and.symm
  · intro t ht
    rw [hdeps, RuleSet.get?_of_mem ht]
    rfl
  · intro name hnone
    have hget : rules.get? name = none := RuleSet.get?_eq_none_iff.mpr (by simpa using hnone)
    rw [hdeps, hget]
    rfl
  · intro x
    have hsub : (g.dependents x).Sublist (rules.targets.map Target.name) := by
      rw [dependents_ofRules]
      exact List.filter_sublist.map _
    exact ⟨hsub.nodup rules.names_nodup, hsub⟩
  · intro name node hnode dep hdep
    apply closed_ofRules rules name
    unfold dependencies
    rw [hnode]
    exact hdep

/-- Two rules: `C` names `B` before its rule, and `B` names itself and names the leaf `A` twice. -/
def knot : RuleSet where
  targets := [⟨"C", ["B", "A"], "cat", ["B", "A"]⟩, ⟨"B", ["A", "B", "A"], "cat", ["A"]⟩]
  names_nodup := by decide
  deps_ne_nil := by decide

/-- In the knot `B` keeps its dependencies as they are written, and is once a dependent of `A` and of itself. -/
theorem ofRules_faithful_knot :
    let g := ofRules knot
    let t : Target := ⟨"B", ["A", "B", "A"], "cat", ["A"]⟩
    t ∈ knot.targets ∧ (∃ node, g.node? "B" = some node ∧ node.rule = some t) ∧ g.dependencies "B" = t.deps ∧
      (∀ t ∈ knot.targets, t.name ≠ "A") ∧ (∃ node, g.node? "A" = some node ∧ node.rule = none) ∧
      g.dependencies "A" = [] ∧ g.node? "cat" = none ∧ "B" ∈ g.dependents "A" ∧ "B" ∈ g.dependents "B" ∧
      (g.dependents "A").Nodup ∧ (g.dependents "A").Sublist ["C", "B"] ∧ (g.node? "A").isSome := by
  intro g t
  obtain ⟨hrule, hleaf, habsent, hdeps, hnone, hdependents, honce, hclosed⟩ := ofRules_faithful knot
  have ht : t ∈ knot.targets := by decide
  have hA : ∀ t ∈ knot.targets, t.name ≠ "A" := by decide
  have hB : g.dependencies "B" = t.deps := hdeps t ht
  obtain ⟨node, hnode, hnodeRule⟩ := (hrule "B" t).mpr ⟨ht, rfl⟩
  have hnodeDeps : "A" ∈ node.deps := by
    unfold Node.deps
    rw [hnodeRule]
    decide
  refine ⟨ht, ⟨node, hnode, hnodeRule⟩, hB, hA, (hleaf "A").mpr ⟨⟨t, ht, by decide⟩, hA⟩, hnone "A" hA,
    (habsent "cat").mpr (by decide), (hdependents "A" "B").mpr ?_, (hdependents "B" "B").mpr ?_, (honce "A").1,
    (honce "A").2, hclosed "B" node hnode "A" hnodeDeps⟩
  · rw [hB]
    decide
  · rw [hB]
    decide

end Rebuild.Graph
