import Rebuild.Proofs.Build.Steps
import Rebuild.Proofs.Files
import Rebuild.Proofs.Graph.Recursion
import Rebuild.Proofs.PlanOrder
import Rebuild.Proofs.Rehearsal
import Rebuild.Proofs.Rule.Loading

/-!
# What a request depends on

A visit asks the graph for the dependencies of names that its roots reach, and for nothing else (`Explores.congr`). So
two graphs with the same rules for these names have the same closure and plan (`AgreeBelow.map_planOfClosure_eq`), be it
found or not, although a name may be a leaf in one of them and be missing in the other. From the plan on, a build looks
at no rule that is not in the plan, so a named build is the same for two rule sets that agree on all that the name
reaches (`named_build_congr`).
-/

namespace Rebuild

namespace RuleSet

variable {rules rules' : RuleSet} {name : Name}

/-- Two rule sets that have the same rules for a name give it the same rule. -/
theorem get?_congr (h : ∀ t : Target, t.name = name → (t ∈ rules.targets ↔ t ∈ rules'.targets)) :
    rules.get? name = rules'.get? name := by
  refine Option.ext fun t => ?_
  rw [get?_eq_some_iff, get?_eq_some_iff]
  exact and_congr_left (h t)

end RuleSet

namespace Graph

variable {g g' : Graph} {path listed names roots : List Name} {name : Name} {result : Except (List Name) (List Name)}

/-! ## Names that roots reach -/

/-- Two graphs have the same rules for all that some roots reach in the first. -/
def AgreeBelow (g g' : Graph) (roots : List Name) : Prop :=
  ∀ root ∈ roots, ∀ name, g.Reaches root name → g.rule? name = g'.rule? name

namespace AgreeBelow

theorem rule?_eq (h : AgreeBelow g g' (name :: names)) : g.rule? name = g'.rule? name :=
  h name List.mem_cons_self name .refl

theorem dependencies_eq (h : AgreeBelow g g' (name :: names)) : g.dependencies name = g'.dependencies name := by
  rw [Graph.dependencies_eq, Graph.dependencies_eq, h.rule?_eq]

theorem tail (h : AgreeBelow g g' (name :: names)) : AgreeBelow g g' names :=
  fun root hroot => h root (List.mem_cons_of_mem _ hroot)

/-- A root reaches all that its dependencies reach. -/
theorem below (h : AgreeBelow g g' (name :: names)) : AgreeBelow g g' (g.dependencies name) :=
  fun _ hdep x hreach => h name List.mem_cons_self x (.head hdep hreach)

end AgreeBelow

/-- Looking at names comes to the same in two graphs that agree on all that these names reach. -/
theorem Explores.congr (h : g.Explores path listed names result) (hagree : AgreeBelow g g' names) :
    g'.Explores path listed names result := by
  induction h with
  | nil => exact .nil
  | skip hlisted _ ih => exact .skip hlisted (ih hagree.tail)
  | close hnew hpath => exact .close hnew hpath
  | fail hnew hpath _ ih =>
    have hdeps := ih hagree.below
    rw [hagree.dependencies_eq] at hdeps
    exact .fail hnew hpath hdeps
  | list hnew hpath _ _ ihdeps ih =>
    have hdeps := ihdeps hagree.below
    rw [hagree.dependencies_eq] at hdeps
    exact .list hnew hpath hdeps (ih hagree.tail)

namespace AgreeBelow

/-- The visits of two graphs that agree on all that the roots reach come to the same. -/
theorem postOrder_eq (hg : g.Closed) (hg' : g'.Closed) (h : AgreeBelow g g' roots) :
    g.postOrder roots = g'.postOrder roots := by
  obtain ⟨result, hexplores, heq⟩ := exists_explores hg roots
  rw [heq, postOrder_eq_of_explores hg' (hexplores.congr h)]

/-- So do their plans. -/
theorem map_planOfClosure_eq (hg : g.Closed) (hg' : g'.Closed) (h : AgreeBelow g g' roots) :
    (g.closure roots).map g.planOfClosure = (g'.closure roots).map g'.planOfClosure := by
  have hclosure : g.closure roots = g'.closure roots := by
    unfold closure
    rw [h.postOrder_eq hg hg']
  rw [← hclosure]
  cases horder : g.closure roots with
  | error failure => rfl
  | ok order =>
    have hsteps : order.filterMap g.rule? = order.filterMap g'.rule? := by
      refine List.filterMap_congr fun name hn => ?_
      obtain ⟨root, hroot, hreach⟩ := ((buildOrder_of_postOrder hg (closure_eq_ok.mp horder)).mem_iff name).mp hn
      exact h root hroot name hreach
    simp only [Except.map, planOfClosure, hsteps]

end AgreeBelow

variable {σ : Type u} [FileView σ] {rules rules' : RuleSet}

/-- Two rule sets that agree on all that a name reaches have the same plan for it. -/
theorem planFor_congr (h : ∀ x, (ofRules rules).Reaches name x → rules.get? x = rules'.get? x) (root : String) (w : σ) :
    (ofRules rules).planFor root w (some name) = (ofRules rules').planFor root w (some name) := by
  have hagree : AgreeBelow (ofRules rules) (ofRules rules') [name] := by
    intro r hr x hreach
    rw [List.mem_singleton.mp hr] at hreach
    rw [rule?_ofRules, rule?_ofRules, h x hreach]
  have htarget : (ofRules rules).isTarget name = (ofRules rules').isTarget name := by
    unfold isTarget
    rw [hagree.rule?_eq]
  show ((ofRules rules).resolve root w name).map _ = ((ofRules rules').resolve root w name).map _
  unfold resolve
  rw [htarget]
  split
  · rfl
  · split
    · rfl
    · exact hagree.map_planOfClosure_eq (closed_ofRules rules) (closed_ofRules rules')

end Graph

/-- **A named build depends only on what the name reaches.** Let two rule sets have the same rule, or none, for every
name that the requested one reaches in the first. Then the plans for this name are the same, or the failures to find
one, and so are the builds: result, commands and world. This holds if the second set has the rules of the first in
another order, also where the rules come from other files; or if it has all these rules, and more only for names that
the requested one does not reach, whatever cycles they close. -/
theorem named_build_congr {σ : Type u} [FileView σ] (runner : Runner σ) (root : String) (rules rules' : RuleSet)
    (name : Name) (dryRun : Bool) (w : σ) :
    let g := Graph.ofRules rules
    let same : Prop := g.planFor root w (some name) = (Graph.ofRules rules').planFor root w (some name) ∧
      buildRules runner root rules (some name) dryRun w = buildRules runner root rules' (some name) dryRun w
    ((∀ x, g.Reaches name x → rules.get? x = rules'.get? x) → same) ∧
    (rules.targets.Perm rules'.targets → same ∧
      ∀ paths paths', RuleSet.load w paths = .ok rules → RuleSet.load w paths' = .ok rules' →
        build runner root ⟨some name, paths, dryRun⟩ w = build runner root ⟨some name, paths', dryRun⟩ w) ∧
    (rules.targets ⊆ rules'.targets →
      (∀ t ∈ rules'.targets, g.Reaches name t.name → t ∈ rules.targets) → same) := by
  intro g same
  have hsame : (∀ x, g.Reaches name x → rules.get? x = rules'.get? x) → same := by
    intro h
    have hplan := Graph.planFor_congr h root w
    refine ⟨hplan, ?_⟩
    unfold buildRules
    rw [hplan]
  refine ⟨hsame, fun hperm => ?_, fun hsub hadded => hsame fun x hreach => ?_⟩
  · have hbuilt : same := hsame fun x _ => RuleSet.get?_congr fun t _ => hperm.mem_iff
    refine ⟨hbuilt, fun paths paths' hload hload' => ?_⟩
    unfold build
    rw [hload, hload']
    exact hbuilt.2
  · refine RuleSet.get?_congr fun t ht => ⟨fun hmem => hsub hmem, fun hmem => hadded t hmem ?_⟩
    rwa [ht]

/-- The chain with its two rules in the other order, and two more, before and between them, that depend on each
other. -/
def RuleSet.chainInRing : RuleSet where
  targets := [⟨"X", ["Y", "C"], "cat", ["Y"]⟩, ⟨"C", ["B"], "cat", ["B"]⟩, ⟨"Y", ["X"], "cat", ["X"]⟩,
    ⟨"B", ["A"], "cat", ["A"]⟩]
  names_nodup := by decide
  deps_ne_nil := by decide

/-- A build of `C` is the same from one file with both rules as from a file for each, and from the chain as from a rule
set that has a cycle besides. -/
theorem named_build_congr_chain :
    let reversed : RuleSet := ⟨RuleSet.chain.targets.reverse, by decide, by decide⟩
    let s := Store.empty.applyAll [.write "one.rules" "B : A : cat A :\n\nC : B : cat B :\n".toUTF8,
      .write "c.rules" "C : B : cat B :".toUTF8, .write "b.rules" "B : A : cat A :".toUTF8, .write "A" "a".toUTF8]
    let run paths := build Rehearsal.usual.runner "." ⟨some "C", paths, false⟩ s
    RuleSet.load s ["one.rules"] = .ok .chain ∧ RuleSet.load s ["c.rules", "b.rules"] = .ok reversed ∧
      RuleSet.chain.targets.Perm reversed.targets ∧ run ["one.rules"] = run ["c.rules", "b.rules"] ∧
      (run ["one.rules"]).invoked.map Invocation.target = ["B", "C"] ∧
      (∀ x, (Graph.ofRules .chain).Reaches "C" x → RuleSet.chain.get? x = RuleSet.chainInRing.get? x) ∧
      RuleSet.chain.targets ⊆ RuleSet.chainInRing.targets ∧
      (∀ t ∈ RuleSet.chainInRing.targets, (Graph.ofRules .chain).Reaches "C" t.name → t ∈ RuleSet.chain.targets) ∧
      (Graph.ofRules .chain).planFor "." s (some "C") = (Graph.ofRules .chainInRing).planFor "." s (some "C") ∧
      buildRules Rehearsal.usual.runner "." .chain (some "C") false s =
        buildRules Rehearsal.usual.runner "." .chainInRing (some "C") false s := by
  intro reversed s run
  have hone : RuleSet.load s ["one.rules"] = .ok .chain := RuleSet.load_eq_ok_of_targets (by decide +kernel)
  have htwo : RuleSet.load s ["c.rules", "b.rules"] = .ok reversed :=
    RuleSet.load_eq_ok_of_targets (by decide +kernel)
  have hperm : RuleSet.chain.targets.Perm reversed.targets := (List.reverse_perm _).symm
  have hinvoked : (run ["one.rules"]).invoked.map Invocation.target = ["B", "C"] := by decide +kernel
  have hbelow : ∀ x, (Graph.ofRules .chain).Reaches "C" x → x ∈ ["A", "B", "C"] := by
    intro x hreach
    have horder : (Graph.ofRules .chain).closure ["C"] = .ok ["A", "B", "C"] := by decide +kernel
    exact ((Graph.buildOrder_of_closure horder).mem_iff x).mpr ⟨"C", List.mem_singleton_self _, hreach⟩
  have hagree : ∀ x, (Graph.ofRules .chain).Reaches "C" x → RuleSet.chain.get? x = RuleSet.chainInRing.get? x :=
    fun x hreach => (show ∀ x ∈ ["A", "B", "C"], RuleSet.chain.get? x = RuleSet.chainInRing.get? x by decide) x
      (hbelow x hreach)
  have hsub : RuleSet.chain.targets ⊆ RuleSet.chainInRing.targets := by decide
  have hadded : ∀ t ∈ RuleSet.chainInRing.targets, (Graph.ofRules .chain).Reaches "C" t.name →
      t ∈ RuleSet.chain.targets := fun t ht hreach =>
    (show ∀ t ∈ RuleSet.chainInRing.targets, t.name ∈ ["A", "B", "C"] → t ∈ RuleSet.chain.targets by decide) t ht
      (hbelow _ hreach)
  obtain ⟨_, hspread, _⟩ := named_build_congr Rehearsal.usual.runner "." .chain reversed "C" false s
  obtain ⟨hreach, _, hmore⟩ := named_build_congr Rehearsal.usual.runner "." .chain .chainInRing "C" false s
  exact ⟨hone, htwo, hperm, (hspread hperm).2 _ _ hone htwo, hinvoked, hagree, hsub, hadded, (hreach hagree).1,
    (hmore hsub hadded).2⟩

end Rebuild
