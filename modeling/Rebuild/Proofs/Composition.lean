import Rebuild.Proofs.Closure
import Rebuild.Proofs.Graph.Roots

/-!
# Visits and plans put together

A visit of several roots is put together from the visits of its parts, and the visit of a name from that of its
dependencies; so the plan for all targets is put together from the plans for each of them (`postOrder_compose`). The
closures of several roots are joined one after the other (`closure_eq_mapM`), and leaving out repetitions before or
after taking the rules of names comes to the same (`filterMap_eraseDups`), since no two names have one rule.
-/

namespace Rebuild

/-! ## Lists without repetitions -/

section Lists

variable {α β : Type} [BEq α] [LawfulBEq α] [BEq β] [LawfulBEq β]

/-- A function that gives no two elements the same result keeps repetitions apart. -/
theorem filterMap_eraseDups {f : α → Option β} (hf : ∀ a b c, f a = some c → f b = some c → a = b) :
    ∀ l : List α, l.eraseDups.filterMap f = (l.filterMap f).eraseDups
  | [] => by simp
  | a :: l => by
    have : (l.filter fun b => !b == a).length < l.length + 1 := Nat.lt_succ_of_le (List.length_filter_le _ _)
    rw [List.eraseDups_cons]
    cases hfa : f a with
    | none =>
      have hsame : (l.filter fun b => !b == a).filterMap f = l.filterMap f := by
        rw [List.filterMap_filter]
        refine List.filterMap_congr fun b _ => ?_
        by_cases he : b = a <;> simp [he, hfa]
      rw [List.filterMap_cons_none hfa, List.filterMap_cons_none hfa, filterMap_eraseDups hf, hsame]
    | some c =>
      have hsame : (l.filter fun b => !b == a).filterMap f = (l.filterMap f).filter fun d => !d == c := by
        rw [List.filterMap_filter, List.filter_filterMap]
        refine List.filterMap_congr fun b _ => ?_
        by_cases he : b = a
        · simp [he, hfa, Option.filter_some]
        · cases hfb : f b with
          | none => simp
          | some d =>
            have hne : d ≠ c := fun hd => he (hf b a c (hd ▸ hfb) hfa)
            simp [he, hne, Option.filter_some]
      rw [List.filterMap_cons_some hfa, List.filterMap_cons_some hfa, filterMap_eraseDups hf, hsame,
        List.eraseDups_cons]
termination_by l => l.length

theorem filter_eraseDups (p : α → Bool) (l : List α) : l.eraseDups.filter p = (l.filter p).eraseDups := by
  rw [← List.filterMap_eq_filter]
  refine filterMap_eraseDups (fun a b c ha hb => ?_) l
  rw [(Option.guard_eq_some_iff.mp ha).1, (Option.guard_eq_some_iff.mp hb).1]

theorem eraseDups_of_nodup : ∀ {l : List α}, l.Nodup → l.eraseDups = l
  | [], _ => by simp
  | a :: l, h => by
    obtain ⟨hnew, hl⟩ := List.nodup_cons.mp h
    have hsame : (l.filter fun b => !b == a) = l :=
      List.filter_eq_self.mpr fun b hb => by
        have hne : b ≠ a := fun he => hnew (he ▸ hb)
        simp [hne]
    rw [List.eraseDups_cons, hsame, eraseDups_of_nodup hl]

/-- Where one part has no repetition, only what it has is left out of the other. -/
theorem append_eraseDups [DecidableEq α] {before after : List α} (h : before.Nodup) :
    (before ++ after).eraseDups = before ++ after.eraseDups.filter (· ∉ before) := by
  rw [List.eraseDups_append, eraseDups_of_nodup h, filter_eraseDups]
  congr 2
  exact List.filter_congr fun x _ => by simp

end Lists

/-- Results that are changed one by one are changed as a list. -/
theorem mapM_map {α β γ ε : Type} (f : α → Except ε β) (h : β → γ) (l : List α) :
    (l.mapM fun a => (f a).map h) = (l.mapM f).map (List.map h) := by
  induction l with
  | nil => rfl
  | cons a l ih =>
    rw [List.mapM_cons, List.mapM_cons, ih]
    cases f a with
    | error failure => rfl
    | ok b => cases l.mapM f <;> rfl

namespace Graph

variable {g : Graph} {rules : RuleSet}

/-! ## Closures put together -/

theorem closure_append (hg : g.Closed) (first second : List Name) :
    g.closure (first ++ second) = do
      let before ← g.closure first
      let after ← g.closure second
      return before ++ after.filter (· ∉ before) := by
  unfold closure
  rw [postOrder_append hg]
  cases g.postOrder first with
  | error path => rfl
  | ok before => cases g.postOrder second <;> rfl

/-- The closures of roots are joined in the order of the roots, and a name stays where it is met first. -/
theorem closure_eq_mapM (hg : g.Closed) : ∀ roots : List Name,
    g.closure roots = (roots.mapM fun root => g.closure [root]).map fun parts => parts.flatten.eraseDups
  | [] => by
    rw [closure, postOrder_eq_of_explores hg .nil]
    rfl
  | root :: roots => by
    rw [← List.singleton_append, closure_append hg, closure_eq_mapM hg roots, List.singleton_append, List.mapM_cons]
    cases hfirst : g.closure [root] with
    | error failure => rfl
    | ok before =>
      have hnodup : before.Nodup := (buildOrder_of_postOrder hg (closure_eq_ok.mp hfirst)).nodup
      cases roots.mapM fun root => g.closure [root] with
      | error failure => rfl
      | ok parts => exact congrArg Except.ok (append_eraseDups hnodup).symm

/-! ## Plans put together -/

/-- The plan for a closure without repetitions has the parts of the plans for its pieces, without repetitions. -/
theorem planOfClosure_eraseDups (parts : List (List Name)) :
    (ofRules rules).planOfClosure parts.flatten.eraseDups =
      let plans := parts.map (ofRules rules).planOfClosure
      ⟨(plans.flatMap Plan.steps).eraseDups, (plans.flatMap Plan.closure).eraseDups⟩ := by
  have hinj : ∀ a b t, (ofRules rules).rule? a = some t → (ofRules rules).rule? b = some t → a = b := by
    intro a b t ha hb
    rw [rule?_ofRules] at ha hb
    rw [← RuleSet.name_of_get? ha, ← RuleSet.name_of_get? hb]
  have hsteps : (parts.map (ofRules rules).planOfClosure).flatMap Plan.steps =
      parts.flatten.filterMap (ofRules rules).rule? := by
    rw [List.flatMap_map, List.filterMap_flatten, List.flatMap_def]
    rfl
  have hclosure : (parts.map (ofRules rules).planOfClosure).flatMap Plan.closure = parts.flatten := by
    rw [List.flatMap_map]
    exact List.flatMap_id
  dsimp only
  rw [hsteps, hclosure, planOfClosure, filterMap_eraseDups hinj]

/-- The plan for all targets has the steps and the names of the plans for each of them, in the order of the rules. -/
theorem planAll_eq_mapM : (ofRules rules).planAll =
    (rules.targets.mapM fun t => (ofRules rules).plan t.name).map fun plans =>
      ⟨(plans.flatMap Plan.steps).eraseDups, (plans.flatMap Plan.closure).eraseDups⟩ := by
  have hclosures : (ofRules rules).closure (rules.targets.map Target.name) =
      (rules.targets.mapM fun t => (ofRules rules).closure [t.name]).map fun parts => parts.flatten.eraseDups := by
    rw [closure_eq_mapM (closed_ofRules rules), List.mapM_map]
    rfl
  have hplans : (rules.targets.mapM fun t => (ofRules rules).plan t.name) =
      (rules.targets.mapM fun t => (ofRules rules).closure [t.name]).map (List.map (ofRules rules).planOfClosure) :=
    mapM_map ..
  show ((ofRules rules).closure (rules.targets.map Target.name)).map _ = _
  rw [hclosures, hplans]
  cases rules.targets.mapM fun t => (ofRules rules).closure [t.name] with
  | error failure => rfl
  | ok parts => exact congrArg Except.ok (planOfClosure_eraseDups parts)

end Graph

/-- **Visits and plans are put together from parts.** A visit of some roots and then of others fails with the cycle of
the first of the two visits that fails, and else lists what the first lists and then what the second lists besides. A
name that reaches no cycle is listed right after what a visit of its dependencies, in their order, lists. So the plan
for all targets has the steps and the names of the plans for each of them, in the order of the rules and each where it
comes first, and it fails as the first of these plans that fails. -/
theorem postOrder_compose (rules : RuleSet) :
    let g := Graph.ofRules rules
    (∀ first second, g.postOrder (first ++ second) = do
      let before ← g.postOrder first
      let after ← g.postOrder second
      return before ++ after.filter (· ∉ before)) ∧
    (∀ name, (∀ x, g.Reaches name x → ¬ g.DependsOn x x) → ∃ below,
      g.postOrder (g.dependencies name) = .ok below ∧ g.postOrder [name] = .ok (below ++ [name])) ∧
    g.planAll = do
      let plans ← rules.targets.mapM fun t => g.plan t.name
      return ⟨(plans.flatMap Plan.steps).eraseDups, (plans.flatMap Plan.closure).eraseDups⟩ := by
  have hg := Graph.closed_ofRules rules
  refine ⟨Graph.postOrder_append hg, fun name => Graph.postOrder_singleton hg, ?_⟩
  rw [Graph.planAll_eq_mapM]
  cases rules.targets.mapM fun t => (Graph.ofRules rules).plan t.name <;> rfl

/-- `E` is listed after what its dependencies list; the plan for `E` has all steps of the plan for all targets. -/
theorem postOrder_compose_diamond :
    let g := Graph.ofRules .diamond
    (∀ x, g.Reaches "E" x → ¬ g.DependsOn x x) ∧
    ∃ below, g.postOrder ["C", "D"] = .ok below ∧ g.postOrder ["E"] = .ok (below ++ ["E"]) ∧
      below = ["A", "B", "C", "D"] := by
  intro g
  have hdeps : g.dependencies "E" = ["C", "D"] := by decide +kernel
  have hlisted : (g.postOrder ["E"]).toOption = some ["A", "B", "C", "D", "E"] := by decide +kernel
  cases h : g.postOrder ["E"] with
  | error path => rw [h] at hlisted; cases hlisted
  | ok order =>
    have horder := Graph.buildOrder_of_postOrder (Graph.closed_ofRules .diamond) h
    have hacyclic : ∀ x, g.Reaches "E" x → ¬ g.DependsOn x x := fun x hreach =>
      horder.not_dependsOn_self ((horder.mem_iff x).mpr ⟨"E", by simp, hreach⟩)
    obtain ⟨below, hbelow, hall⟩ := (postOrder_compose .diamond).2.1 "E" hacyclic
    rw [hdeps] at hbelow
    obtain rfl : order = below ++ ["E"] := Except.ok.inj (h.symm.trans hall)
    rw [h] at hlisted
    have hsame : below ++ ["E"] = ["A", "B", "C", "D"] ++ ["E"] := Option.some.inj hlisted
    exact ⟨hacyclic, below, hbelow, rfl, List.append_cancel_right hsame⟩

end Rebuild
