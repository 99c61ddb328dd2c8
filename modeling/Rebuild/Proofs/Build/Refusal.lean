import Rebuild.Proofs.Build.Step
import Rebuild.Proofs.Build.Steps
import Rebuild.Proofs.PlanOrder
import Rebuild.Proofs.Rehearsal
import Rebuild.Proofs.Rule.Loading

/-!
# Requests that are refused

A build first makes a plan of its request (`Request.plan`), and looks only at the rule files and at whether the
requested name is there (`Request.plan_congr`). What is wrong with the request it finds then and not later
(`build_error_iff`): a step of the plan fails for another reason (`Build.failure_of_runSteps`). A request has a plan
exactly if its rules hold, its name can be looked for, and it reaches no cycle (`Request.sound_iff`).

Together: `request_refused_first`.
-/

namespace Rebuild

/-! ## Two kinds of failures -/

/-- What can be wrong with a request or with the rule files that it names. -/
inductive Failure.OfRequest {σ : Type u} [FileView σ] (w : σ) (paths : List String) : Failure → Prop where
  | malformedRule (m : Malformed) : OfRequest w paths (.malformedRule m)
  /-- A rule file cannot be read. -/
  | unreadable {path : String} {fault : FileFault} (hpath : path ∈ paths)
    (hfault : FileView.readText w path = .error fault) : OfRequest w paths (.unreadable fault)
  | unknownTarget (name : Name) : OfRequest w paths (.unknownTarget name)
  | cyclicDependency (path : List Name) : OfRequest w paths (.cyclicDependency path)

/-- What can go wrong with a step of a plan where the times of files can be told. -/
inductive Failure.OfStep : Failure → Prop where
  | missingSource (name : Name) : OfStep (.missingSource name)
  | buildFailed (target : Name) (cause : CommandFailure) : OfStep (.buildFailed target cause)
  | outputNotProduced (target : Name) : OfStep (.outputNotProduced target)

section

variable {σ : Type u} [FileView σ] {σ' : Type v} [FileView σ'] {w : σ} {w' : σ'} {paths : List String}
  {failure : Failure}

/-- The rule files alone tell what can be wrong with a request. -/
theorem Failure.OfRequest.congr (h : ∀ path ∈ paths, FileView.readText w path = FileView.readText w' path)
    (hf : failure.OfRequest w paths) : failure.OfRequest w' paths := by
  cases hf with
  | unreadable hpath hfault => exact .unreadable hpath ((h _ hpath).symm.trans hfault)
  | _ => constructor

namespace RuleSet

/-- Loading rules fails for what is wrong with their files. -/
theorem ofRequest_of_load (h : RuleSet.load w paths = .error failure) : failure.OfRequest w paths := by
  rcases load_eq_error_iff.mp h with hload | ⟨_, m, -, -, rfl⟩
  · obtain ⟨before, path, after, rfl, -, hpath⟩ := RawRule.loadAll_eq_error_iff.mp hload
    cases hread : FileView.readText w path with
    | error fault =>
      rw [RawRule.load, hread] at hpath
      cases hpath
      exact .unreadable (by simp) hread
    | ok content =>
      obtain ⟨m, rfl, -⟩ := (RawRule.load_eq_error_iff hread).mp hpath
      exact .malformedRule m
  · exact .malformedRule m

/-- Rules are loaded from files that can be read. -/
theorem exists_readText_of_load {rules : RuleSet} (h : RuleSet.load w paths = .ok rules) :
    ∀ path ∈ paths, ∃ text, FileView.readText w path = .ok text := by
  intro path hpath
  obtain ⟨raws, hraws, -⟩ := load_eq_ok_iff.mp h
  obtain ⟨rules', hrules⟩ := RawRule.exists_load_of_loadAll hraws path hpath
  cases hread : FileView.readText w path with
  | ok text => exact ⟨text, rfl⟩
  | error fault =>
    rw [RawRule.load, hread] at hrules
    cases hrules

/-- Rules are loaded from nothing but their files. -/
theorem load_congr (h : ∀ path ∈ paths, FileView.readText w path = FileView.readText w' path) :
    RuleSet.load w paths = RuleSet.load w' paths := by
  have hall : RawRule.loadAll w paths = RawRule.loadAll w' paths := by
    induction paths with
    | nil => rfl
    | cons path paths ih =>
      obtain ⟨hpath, hpaths⟩ := List.forall_mem_cons.mp h
      rw [RawRule.loadAll, RawRule.loadAll, RawRule.load, RawRule.load, hpath, ih hpaths]
  unfold RuleSet.load
  rw [hall]

end RuleSet

namespace Graph

variable {g : Graph} {root : String} {target : Option Name}

/-- Planning fails for what is wrong with the request. -/
theorem ofRequest_of_planFor (h : g.planFor root w target = .error failure) : failure.OfRequest w paths := by
  rcases planFor_cases g root w target with ⟨name, _, _, hunknown⟩ | ⟨_, hplan⟩
  · rw [hunknown] at h
    cases h
    exact .unknownTarget name
  · obtain ⟨cycle, _, rfl⟩ := closure_eq_error.mp (map_planOfClosure_eq_error.mp (hplan.symm.trans h))
    exact .cyclicDependency cycle

/-- A plan depends on no file, but on whether the requested name is there. -/
theorem planFor_congr_world (h : ∀ name, target = some name →
      FileView.isThere w (Path.join root name) = FileView.isThere w' (Path.join root name)) :
    g.planFor root w target = g.planFor root w' target := by
  cases target with
  | none => rfl
  | some name =>
    show (g.resolve root w name).map _ = (g.resolve root w' name).map _
    unfold resolve
    rw [h name rfl]

end Graph

/-! ## Plans of requests -/

/-- A request that the rules can meet: its name does not stand for the build root and has a rule or is there, and it
reaches no cycle. -/
structure Request.Sound (request : Request) (root : String) (rules : RuleSet) (w : σ) : Prop where
  known : ∀ name, request.target = some name → Path.isHere name = false ∧
    ((∃ t ∈ rules.targets, t.name = name) ∨ FileView.isThere w (Path.join root name) = true)
  acyclic : ∀ r ∈ request.target.elim (rules.targets.map Target.name) ([·]), ∀ x,
    (Graph.ofRules rules).Reaches r x → ¬ (Graph.ofRules rules).DependsOn x x

/-- The plan of a request: the rules are loaded, and what it asks for is planned by them. -/
def Request.plan (request : Request) (root : String) (w : σ) : Except Failure Plan :=
  RuleSet.load w request.rules >>= fun rules => (Graph.ofRules rules).planFor root w request.target

variable {request : Request} {runner : Runner σ} {root : String} {plan : Plan}

namespace Request

theorem plan_eq_ok_iff : request.plan root w = .ok plan ↔ ∃ rules, RuleSet.load w request.rules = .ok rules ∧
    (Graph.ofRules rules).planFor root w request.target = .ok plan := by
  unfold Request.plan
  cases RuleSet.load w request.rules <;> simp [bind, Except.bind]

theorem plan_eq_error_iff : request.plan root w = .error failure ↔ RuleSet.load w request.rules = .error failure ∨
    ∃ rules, RuleSet.load w request.rules = .ok rules ∧
      (Graph.ofRules rules).planFor root w request.target = .error failure := by
  unfold Request.plan
  cases RuleSet.load w request.rules <;> simp [bind, Except.bind]

/-- A request has no plan because of what is wrong with it. -/
theorem ofRequest_of_plan (h : request.plan root w = .error failure) : failure.OfRequest w request.rules := by
  rcases plan_eq_error_iff.mp h with hload | ⟨rules, -, hplan⟩
  · exact RuleSet.ofRequest_of_load hload
  · exact Graph.ofRequest_of_planFor hplan

/-- A plan depends on the rule files and on whether the requested name is there. -/
theorem plan_congr (hrules : ∀ path ∈ request.rules, FileView.readText w path = FileView.readText w' path)
    (hname : ∀ name, request.target = some name →
      FileView.isThere w (Path.join root name) = FileView.isThere w' (Path.join root name)) :
    request.plan root w = request.plan root w' := by
  unfold plan
  rw [RuleSet.load_congr hrules]
  exact congrArg _ (funext fun rules => Graph.planFor_congr_world hname)

/-- The rules can meet a request exactly if there is a plan for it. -/
theorem sound_iff {rules : RuleSet} : request.Sound root rules w ↔
    ∃ plan, (Graph.ofRules rules).planFor root w request.target = .ok plan := by
  rcases Graph.planFor_cases (Graph.ofRules rules) root w request.target with
    ⟨name, htarget, hwrong, hunknown⟩ | ⟨hknown, hplan⟩
  · refine iff_of_false (fun h => ?_) (by simp [hunknown])
    obtain ⟨hhere, hrule | hthere⟩ := h.known name htarget
    · rcases hwrong with hwrong | ⟨hwrong, -⟩
      · rw [hhere] at hwrong; cases hwrong
      · rw [Graph.isTarget_ofRules.mpr hrule] at hwrong; cases hwrong
    · rcases hwrong with hwrong | ⟨-, hwrong⟩
      · rw [hhere] at hwrong; cases hwrong
      · rw [hthere] at hwrong; cases hwrong
  · simp only [Graph.isTarget_ofRules] at hknown
    rw [hplan]
    cases hclosure : (Graph.ofRules rules).closure (request.target.elim (Graph.ofRules rules).targets ([·])) with
    | ok order =>
      have horder := Graph.buildOrder_of_closure hclosure
      refine iff_of_true ⟨hknown, fun r hr x hreach => ?_⟩ ⟨_, rfl⟩
      exact horder.not_dependsOn_self ((horder.mem_iff x).mpr ⟨r, hr, hreach⟩)
    | error failure =>
      refine iff_of_false (fun h => ?_) (by simp [Except.map])
      obtain ⟨r, hr, x, hreach, hd⟩ := Graph.exists_closure_error_iff.mp ⟨failure, hclosure⟩
      exact h.acyclic r hr x hreach hd

end Request

/-- A request without a plan is refused at once. -/
theorem build_of_plan_error (h : request.plan root w = .error failure) :
    build runner root request w = ⟨.error failure, [], w⟩ := by
  unfold build
  rcases Request.plan_eq_error_iff.mp h with hload | ⟨rules, hload, hplan⟩
  · rw [hload]
  · rw [hload]
    exact buildRules_of_error hplan

/-- A request with a plan fails at a step of it. -/
theorem runSteps_of_build_error (hp : request.plan root w = .ok plan)
    (h : (build runner root request w).result = .error failure) :
    (Build.runSteps runner root request.dryRun ∅ w plan.steps).result = .error failure := by
  obtain ⟨rules, hload, hplan⟩ := Request.plan_eq_ok_iff.mp hp
  unfold build at h
  rw [hload] at h
  rcases buildRules_error_cases h with hnone | ⟨plan', hplan', hfail⟩
  · rw [hplan] at hnone
    cases hnone
  · obtain rfl := Except.ok.inj (hplan.symm.trans hplan')
    exact hfail

/-! ## Failures of steps -/

namespace Build

variable {dryRun : Bool} {rebuilt : NameSet} {t : Target} {ts : List Target}

/-- A step fails for a reason of its own, or because the time of a file cannot be told. -/
theorem failure_of_runStep (h : (runStep runner root dryRun rebuilt w t).result = .error failure) :
    failure.OfStep ∨ ∃ fault, failure = .unreadable fault ∧
      Staleness.decide root rebuilt w t.name t.deps = .error fault := by
  have hexit := stepExit runner root dryRun rebuilt w t
  generalize runStep runner root dryRun rebuilt w t = step at h hexit
  cases hexit with
  | missing => cases h; exact Or.inl (.missingSource _)
  | unreadable _ hfault => cases h; exact Or.inr ⟨_, rfl, hfault⟩
  | current => cases h
  | planned => cases h
  | invoked =>
    have hblame := blames_of_resultOfCommand h
    generalize (runner (t.invocation root) w).1 = ended at hblame
    refine Or.inl ?_
    cases hblame with
    | notStarted => exact .buildFailed ..
    | ended => exact .buildFailed ..
    | notProduced => exact .outputNotProduced _

/-- Steps fail for a reason of one of them, or because the time of a file cannot be told. -/
theorem failure_of_runSteps (h : (runSteps runner root dryRun rebuilt w ts).result = .error failure) :
    failure.OfStep ∨ ∃ fault rebuilt, ∃ w : σ, ∃ t ∈ ts, failure = .unreadable fault ∧
      Staleness.decide root rebuilt w t.name t.deps = .error fault := by
  obtain ⟨before, t, after, rs, rfl, _, hfail⟩ := exists_of_runSteps_error h
  rcases failure_of_runStep hfail with hstep | ⟨fault, hfault, hdecide⟩
  · exact Or.inl hstep
  · exact Or.inr ⟨fault, _, _, t, by simp, hfault, hdecide⟩

end Build

/-- Where a request has a plan, what goes wrong is not wrong with the request. -/
theorem not_ofRequest_of_plan (hp : request.plan root w = .ok plan)
    (h : (build runner root request w).result = .error failure) : ¬ failure.OfRequest w request.rules := by
  intro hf
  obtain ⟨rules, hload, -⟩ := Request.plan_eq_ok_iff.mp hp
  rcases Build.failure_of_runSteps (runSteps_of_build_error hp h) with hstep | ⟨fault, _, _, _, _, rfl, _⟩
  · cases hstep <;> cases hf
  · cases hf with
    | unreadable hpath hfault =>
      obtain ⟨text, htext⟩ := RuleSet.exists_readText_of_load hload _ hpath
      rw [hfault] at htext
      cases htext

/-- A build fails for what is wrong with its request exactly if there is no plan. -/
theorem build_error_iff (hf : failure.OfRequest w request.rules) :
    (build runner root request w).result = .error failure ↔ request.plan root w = .error failure := by
  refine ⟨fun h => ?_, fun h => by rw [build_of_plan_error h]⟩
  cases hp : request.plan root w with
  | error failure' => rw [build_of_plan_error hp] at h; exact congrArg _ (Except.error.inj h)
  | ok plan => exact absurd hf (not_ofRequest_of_plan hp h)

end

/-- **What is wrong with a request is found before anything runs.** If a build fails because a rule file cannot be read,
a rule is malformed, the requested name is unknown or it reaches a cycle, then no command was invoked and nothing has
changed. The same request fails with the same failure wherever the rule files read the same and the requested name is
there or not as here, be the run real or dry and whatever the commands and the other files are.

Where the rules hold, let the requested name not stand for the build root and have a rule or be there, and let no cycle
be reached from the request. Then a build on a store fails only because a dependency is missing or a command is to
blame. If one of this is not so, it fails for what is wrong with the request. -/
theorem request_refused_first {σ : Type u} [FileView σ] (runner : Runner σ) (root : String) (request : Request)
    (w : σ) :
    let run := build runner root request w
    (∀ failure, failure.OfRequest w request.rules → run.result = .error failure → run.invoked = [] ∧ run.world = w) ∧
    (∀ {σ' : Type v} [FileView σ'] (runner' : Runner σ') (dryRun : Bool) (w' : σ'),
      (∀ path ∈ request.rules, FileView.readText w path = FileView.readText w' path) →
      (∀ name, request.target = some name →
        FileView.isThere w (Path.join root name) = FileView.isThere w' (Path.join root name)) →
      ∀ failure, failure.OfRequest w request.rules → (run.result = .error failure ↔
        (build runner' root { request with dryRun } w').result = .error failure)) ∧
    ∀ {τ : Type v} [StoreView τ] (runner' : Runner τ) (w' : τ),
      (∀ rules, RuleSet.load w' request.rules = .ok rules → request.Sound root rules w' →
        ∀ failure, (build runner' root request w').result = .error failure → failure.OfStep) ∧
      ((∀ rules, RuleSet.load w' request.rules = .ok rules → ¬ request.Sound root rules w') →
        ∃ failure, failure.OfRequest w' request.rules ∧ (build runner' root request w').result = .error failure) := by
  intro run
  refine ⟨fun failure hf hfail => ?_, ?_, ?_⟩
  · have hrun : run = ⟨.error failure, [], w⟩ := build_of_plan_error ((build_error_iff hf).mp hfail)
    rw [hrun]
    exact ⟨rfl, rfl⟩
  · intro σ' _ runner' dryRun w' hrules hname failure hf
    have hplan : request.plan root w = ({ request with dryRun } : Request).plan root w' :=
      Request.plan_congr hrules hname
    have hother : (build runner' root { request with dryRun } w').result = .error failure ↔
        ({ request with dryRun } : Request).plan root w' = .error failure := build_error_iff (hf.congr hrules)
    rw [build_error_iff hf, hother, hplan]
  · intro τ _ runner' w'
    refine ⟨fun rules hload hsound failure hfail => ?_, fun hunsound => ?_⟩
    · obtain ⟨plan, hplan⟩ := Request.sound_iff.mp hsound
      have hrequest : request.plan root w' = .ok plan := Request.plan_eq_ok_iff.mpr ⟨rules, hload, hplan⟩
      rcases Build.failure_of_runSteps (runSteps_of_build_error hrequest hfail) with
        hstep | ⟨_, _, _, _, _, _, hdecide⟩
      · exact hstep
      · -- the times of a store can be told
        rw [Staleness.decide_eq] at hdecide
        cases hdecide
    · cases hrequest : request.plan root w' with
      | ok plan =>
        obtain ⟨rules, hload, hplan⟩ := Request.plan_eq_ok_iff.mp hrequest
        exact absurd (Request.sound_iff.mpr ⟨plan, hplan⟩) (hunsound rules hload)
      | error failure =>
        exact ⟨failure, Request.ofRequest_of_plan hrequest, by rw [build_of_plan_error hrequest]⟩

/-- Two rules that depend on each other are refused, also in a dry run with failing commands where one of them has a
file and the rule file is newer; a chain without its leaf is not, and its build finds the leaf missing. -/
theorem request_refused_first_ring :
    let s := Store.empty.applyAll [.write "ring.rules" "X : Y : cat Y :\n\nY : X : cat X :".toUTF8,
      .write "chain.rules" "B : A : cat A :\n\nC : B : cat B :".toUTF8]
    let later := s.applyAll [.write "Y" "y".toUTF8, .stamp "ring.rules" 9]
    let failing : Rehearsal := fun _ => .fail 1 ""
    let ring : Request := ⟨some "X", ["ring.rules"], false⟩
    let run := build Rehearsal.usual.runner "." ring s
    run.result = .error (.cyclicDependency ["X", "Y", "X"]) ∧ run.invoked = [] ∧ run.world = s ∧
      (build failing.runner "." { ring with dryRun := true } later).result =
        .error (.cyclicDependency ["X", "Y", "X"]) ∧
      (∀ rules, RuleSet.load s ring.rules = .ok rules → ¬ ring.Sound "." rules s) ∧
      (∃ failure, failure.OfRequest s ring.rules ∧ run.result = .error failure) ∧
      RuleSet.load s ["chain.rules"] = .ok .chain ∧
      Request.Sound ⟨some "C", ["chain.rules"], false⟩ "." .chain s ∧
      (build Rehearsal.usual.runner "." ⟨some "C", ["chain.rules"], false⟩ s).result = .error (.missingSource "A") ∧
      Failure.OfStep (.missingSource "A") := by
  intro s later failing ring run
  have hcycle : run.result = .error (.cyclicDependency ["X", "Y", "X"]) := by decide +kernel
  have hmissing : (build Rehearsal.usual.runner "." ⟨some "C", ["chain.rules"], false⟩ s).result =
      .error (.missingSource "A") := by decide +kernel
  have hload : RuleSet.load s ["chain.rules"] = .ok .chain := RuleSet.load_eq_ok_of_targets (by decide +kernel)
  have hrules : ∀ path ∈ ring.rules, FileView.readText s path = FileView.readText later path := by decide +kernel
  have hname : ∀ name, ring.target = some name →
      FileView.isThere s (Path.join "." name) = FileView.isThere later (Path.join "." name) := by
    rintro name ⟨⟩
    decide +kernel
  have hsound : Request.Sound ⟨some "C", ["chain.rules"], false⟩ "." .chain s := by
    have horder : (Graph.ofRules .chain).closure ["C"] = .ok ["A", "B", "C"] := by decide +kernel
    have hbuild := Graph.buildOrder_of_closure horder
    refine ⟨?_, fun r hr x hreach => hbuild.not_dependsOn_self ((hbuild.mem_iff x).mpr ⟨r, hr, hreach⟩)⟩
    rintro name ⟨⟩
    exact ⟨by decide +kernel, Or.inl (by decide)⟩
  have hunsound : ∀ rules, RuleSet.load s ring.rules = .ok rules → ¬ ring.Sound "." rules s := by
    intro rules hring hs
    obtain ⟨plan, hplan⟩ := Request.sound_iff.mp hs
    have hnone : ring.plan "." s = .error _ := (build_error_iff (.cyclicDependency _)).mp hcycle
    rw [Request.plan_eq_ok_iff.mpr ⟨rules, hring, hplan⟩] at hnone
    cases hnone
  obtain ⟨hnothing, hsame, hrefused⟩ := request_refused_first Rehearsal.usual.runner "." ring s
  obtain ⟨_, _, hstep⟩ := request_refused_first Rehearsal.usual.runner "." ⟨some "C", ["chain.rules"], false⟩ s
  obtain ⟨hinvoked, hworld⟩ := hnothing _ (.cyclicDependency _) hcycle
  exact ⟨hcycle, hinvoked, hworld, (hsame failing.runner true later hrules hname _ (.cyclicDependency _)).mp hcycle,
    hunsound, (hrefused Rehearsal.usual.runner s).2 hunsound, hload, hsound, hmissing,
    (hstep Rehearsal.usual.runner s).1 .chain hload hsound _ hmissing⟩

end Rebuild
