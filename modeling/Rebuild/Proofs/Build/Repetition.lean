import Rebuild.Proofs.Build.Producing

/-!
# Building again

After a build that ends well, and all of whose commands produce their targets, every target of its plan is current. So
the next build of the same request, or of any name in its closure, finds nothing to do (`second_build_idle`): the names
to be planned are among those of the first plan (`exists_planFor_of_mem_closure`), and files that are asked for are
there.
-/

namespace Rebuild

variable {rules : RuleSet} {root : String} {s : Store} {rehearsal : Rehearsal} {target : Option Name}
  {outcome : Outcome}

namespace Build

/-! ## After a producing build -/

/-- The files of the names of a plan after a build that has gone well. -/
structure Settled (rules : RuleSet) (root : String) (target : Option Name) (plan : Plan) (s : Store) : Prop where
  planned : (Graph.ofRules rules).planFor root s target = .ok plan
  current : ∀ t ∈ plan.steps, t.Current root s

/-- A producing build that ends well leaves its plan settled. -/
theorem settled_of_ok (hd : rules.Distinct root) (hs : s.Clocked)
    (h : (buildRules rehearsal.runner root rules target false s).result = .ok outcome)
    (hproduce : ∀ i ∈ (buildRules rehearsal.runner root rules target false s).invoked, (rehearsal i.target).IsProduce) :
    Settled rules root target outcome.plan (buildRules rehearsal.runner root rules target false s).world := by
  obtain ⟨hp, hrun, _⟩ := exists_of_buildRules_ok h
  rw [buildRules_of_plan hp] at hproduce ⊢
  refine ⟨?_, (advance_of_ok hd (Graph.orderly_of_planFor hp) hs hproduce hrun).current⟩
  cases hsteps : outcome.plan.steps with
  | nil => exact hp
  | cons t ts => exact Graph.planFor_eq_of_mem hp (by rw [hsteps]; exact List.mem_cons_self) _

namespace Settled

variable {plan : Plan} (h : Settled rules root target plan s)
include h

theorem buildOrder : (Graph.ofRules rules).BuildOrder (target.elim (Graph.ofRules rules).targets ([·])) plan.closure :=
  Graph.buildOrder_of_closure (Graph.planFrom_of_planFor h.planned).closure

/-- Every dependency of a name of the closure is there. -/
theorem isThere_of_dependency {name dep : Name} (hn : name ∈ plan.closure)
    (hdep : dep ∈ (Graph.ofRules rules).dependencies name) : FileView.isThere s (Path.join root dep) = true := by
  obtain ⟨t, ht, rfl, hmem⟩ := Graph.mem_dependencies_ofRules.mp hdep
  have hstep : t ∈ plan.steps := (Graph.planFrom_of_planFor h.planned).mem_steps.mpr ⟨ht, hn⟩
  obtain ⟨_, _, hall⟩ := h.current t hstep
  obtain ⟨file, hfile, _⟩ := hall dep hmem
  have hfile : s.get? (Path.join root dep) = some file := hfile
  rw [StoreView.isThere_eq, StoreView.store_self, hfile]
  rfl

/-- A name of the closure that was not requested itself has a rule, or is there. -/
theorem isTarget_or_isThere {name : Name} (hn : name ∈ plan.closure) (hne : target ≠ some name) :
    (Graph.ofRules rules).isTarget name = true ∨ FileView.isThere s (Path.join root name) = true := by
  unfold Graph.isTarget
  rw [Graph.rule?_ofRules]
  cases hg : rules.get? name with
  | some t => exact Or.inl rfl
  | none =>
    obtain ⟨r, hr, hreach⟩ := (h.buildOrder.mem_iff name).mp hn
    rcases Relation.ReflTransGen.cases_tail hreach with he | ⟨dependent, hreach, hdep⟩
    · -- a name without a rule is a root only if it was requested
      exfalso
      cases target with
      | some requested => exact hne (by rw [he, List.mem_singleton.mp hr])
      | none =>
        obtain ⟨t, ht, rfl⟩ := List.mem_map.mp hr
        rw [he, RuleSet.get?_of_mem ht] at hg
        cases hg
    · exact Or.inr (h.isThere_of_dependency ((h.buildOrder.mem_iff dependent).mpr ⟨r, hr, hreach⟩) hdep)

/-- A name of the closure can be requested unless it is the build root, and its plan is part of the first. -/
theorem exists_planFor_of_mem_closure {name : Name} (hn : name ∈ plan.closure) (hhere : Path.isHere name = false) :
    ∃ part, (Graph.ofRules rules).planFor root s (some name) = .ok part ∧ ∀ t ∈ part.steps, t ∈ plan.steps := by
  by_cases he : target = some name
  · exact ⟨plan, he ▸ h.planned, fun _ ht => ht⟩
  · have hplan := Graph.planFrom_of_planFor h.planned
    obtain ⟨part, hpart, hsub⟩ := Graph.exists_closure_of_mem hplan.closure hn
    have hresolve : (Graph.ofRules rules).resolve root s name = .ok part := by
      unfold Graph.resolve
      rw [hhere]
      rcases h.isTarget_or_isThere hn he with ht | ht <;> simp [ht, hpart]
    have hplanned : (Graph.ofRules rules).planFor root s (some name) =
        .ok ((Graph.ofRules rules).planOfClosure part) := by
      show ((Graph.ofRules rules).resolve root s name).map _ = _
      rw [hresolve]
      rfl
    refine ⟨_, hplanned, fun t ht => ?_⟩
    obtain ⟨htarget, hmem⟩ := (Graph.planFrom_of_planFor hplanned).mem_steps.mp ht
    exact hplan.mem_steps.mpr ⟨htarget, hsub _ hmem⟩

/-- Where all is settled, a build of steps of the plan does nothing, whatever its commands. -/
theorem buildRules_eq {part : Plan} {request : Option Name}
    (hp : (Graph.ofRules rules).planFor root s request = .ok part) (hsub : ∀ t ∈ part.steps, t ∈ plan.steps)
    (runner : Runner Store) (dryRun : Bool) :
    buildRules runner root rules request dryRun s =
      ⟨.ok ⟨part, ⟨part.steps.map currentResult⟩, listing part.closure⟩, [], s⟩ := by
  rw [buildRules_of_plan hp, runSteps_of_current fun t ht => h.current t (hsub t ht)]
  rfl

end Settled

end Build

/-- **A second build does nothing.** Let different names of the rules be different files, and let a build on the files
that some edits lead to end well, all of whose commands produce their targets. Then the next build of the same request,
or of a name in its closure other than the build root, be it real or dry and whatever its commands, ends well. It
invokes nothing and changes nothing, and finds every target that it plans up to date; and for the same request plan and
listing are the same again. -/
theorem second_build_idle (root : String) (rules : RuleSet) (target : Option Name) (edits : List Store.Edit)
    (rehearsal : Rehearsal) (hd : rules.Distinct root) :
    let s := Store.empty.applyAll edits
    let first := buildRules rehearsal.runner root rules target false s
    ∀ outcome, first.result = .ok outcome → (∀ i ∈ first.invoked, (rehearsal i.target).IsProduce) →
      ∀ (request : Option Name) (runner : Runner Store) (dryRun : Bool),
        (request = target ∨ ∃ name ∈ outcome.plan.closure, Path.isHere name = false ∧ request = some name) →
        ∃ outcome', buildRules runner root rules request dryRun first.world = ⟨.ok outcome', [], first.world⟩ ∧
          outcome'.report.results = outcome'.plan.steps.map (fun t => ⟨t.name, .upToDate, .upToDate, none⟩) ∧
          (request = target → outcome'.plan = outcome.plan ∧ outcome'.listing = outcome.listing) := by
  intro s first outcome hok hproduce request runner dryRun hrequest
  have hsettled := Build.settled_of_ok hd (Store.clocked_applyAll edits) hok hproduce
  obtain ⟨_, _, hlisting⟩ := exists_of_buildRules_ok hok
  by_cases hsame : request = target
  · subst hsame
    refine ⟨_, hsettled.buildRules_eq hsettled.planned (fun _ ht => ht) runner dryRun, rfl, fun _ => ⟨rfl, ?_⟩⟩
    exact hlisting.symm
  · obtain ⟨name, hn, hhere, rfl⟩ := hrequest.resolve_left hsame
    obtain ⟨part, hp, hsub⟩ := hsettled.exists_planFor_of_mem_closure hn hhere
    exact ⟨_, hsettled.buildRules_eq hp hsub runner dryRun, rfl, fun he => absurd he hsame⟩

/-- With `A` set to a later time than `C`, a build makes `B` and `C`. Then a request for `B` invokes nothing, although
every command would fail. -/
theorem second_build_idle_chain :
    let s := Store.empty.applyAll [.write "A" "a".toUTF8, .write "C" "c".toUTF8, .stamp "A" 7]
    let first := buildRules Rehearsal.usual.runner "." .chain none false s
    let failing : Rehearsal := fun _ => .fail 1 ""
    RuleSet.chain.Distinct "." ∧ (∀ i ∈ first.invoked, (Rehearsal.usual i.target).IsProduce) ∧
      ∃ outcome, first.result = .ok outcome ∧ outcome.report.built = ["B", "C"] ∧ "B" ∈ outcome.plan.closure ∧
        Path.isHere "B" = false ∧
        ∃ outcome',
          buildRules failing.runner "." .chain (some "B") false first.world = ⟨.ok outcome', [], first.world⟩ ∧
          outcome'.report.results = outcome'.plan.steps.map (fun t => ⟨t.name, .upToDate, .upToDate, none⟩) := by
  intro s first failing
  have hproduce : ∀ i ∈ first.invoked, (Rehearsal.usual i.target).IsProduce := fun _ _ => Rehearsal.isProduce_usual _
  have hfirst : first.result.toOption.map (fun o => (o.report.built, o.plan.closure)) =
      some (["B", "C"], ["A", "B", "C"]) := by decide +kernel
  have hhere : Path.isHere "B" = false := by decide +kernel
  cases hresult : first.result with
  | error failure => rw [hresult] at hfirst; cases hfirst
  | ok outcome =>
    rw [hresult] at hfirst
    obtain ⟨hbuilt, hclosure⟩ := Prod.mk.inj (Option.some.inj hfirst)
    have hmem : "B" ∈ outcome.plan.closure := by rw [hclosure]; decide
    obtain ⟨outcome', hsecond, hreport, _⟩ := second_build_idle "." .chain none _ .usual RuleSet.chain_distinct outcome
      hresult hproduce (some "B") failing.runner false (Or.inr ⟨"B", hmem, hhere, rfl⟩)
    exact ⟨RuleSet.chain_distinct, hproduce, outcome, rfl, hbuilt, hmem, hhere, outcome', hsecond, hreport⟩

end Rebuild
