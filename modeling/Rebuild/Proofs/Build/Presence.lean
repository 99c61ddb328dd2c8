import Rebuild.Proofs.Build.Foresight
import Rebuild.Proofs.Build.Propagation
import Rebuild.Proofs.Listing

/-!
# What is there

Where commands remove nothing, a build loses nothing that it has come to rely on. A name is `Build.Available` if it is
there or, in a dry run, would have been rebuilt:

- a step that ends well keeps the names that are available, and its dependencies and its target are available after it
  (`Build.available_of_runStep`); so are, after steps that end well, the targets and the dependencies of all of them
  (`Build.available_of_runSteps`);
- hence a dependency that is missing when its turn comes has no rule (`Build.leaf_of_missing`);
- a dry run fails exactly for the first such dependency of its steps (`Build.runSteps_dry_error_iff`);
- and all names of a plan are available at the end (`Build.available_of_mem_closure`).

Together: `missing_source_is_leaf` and `listed_is_there`.
-/

namespace Rebuild

/-! ## Commands that remove nothing -/

/-- Whether the command of an invocation, run in a world, removes nothing: whatever is there stays there. -/
def Runner.RemovesNothing {σ : Type u} [FileView σ] (runner : Runner σ) (i : Invocation) (w : σ) : Prop :=
  ∀ path, FileView.isThere w path = true → FileView.isThere (runner i w).2 path = true

theorem Store.isSome_get?_write {s : Store} {path : String} (p : String) (content : ByteArray)
    (h : (s.get? path).isSome) : ((s.write p content).get? path).isSome := by
  rw [get?_write]
  split
  · rfl
  · exact h

theorem Store.isSome_get?_apply {s : Store} {edit : Store.Edit} {path : String} (hedit : ∀ p, edit ≠ .remove p)
    (h : (s.get? path).isSome) : ((s.apply edit).get? path).isSome := by
  cases edit with
  | remove p => exact absurd rfl (hedit p)
  | write p content => exact isSome_get?_write p content h
  | stamp p time =>
    show ((s.stamp p time).get? path).isSome
    rw [get?_stamp]
    split
    · rwa [Option.isSome_map]
    · exact h

theorem Store.isSome_get?_applyAll {edits : List Store.Edit} {path : String} (hedits : ∀ p, .remove p ∉ edits)
    {s : Store} (h : (s.get? path).isSome) : ((s.applyAll edits).get? path).isSome := by
  induction edits generalizing s with
  | nil => exact h
  | cons edit edits ih =>
    refine ih (fun p hp => hedits p (List.mem_cons_of_mem _ hp)) (isSome_get?_apply (fun p he => ?_) h)
    exact hedits p (he ▸ List.mem_cons_self)

/-- Whether a command removes nothing: it follows no script, or one without removals. -/
def Behaviour.RemovesNothing : Behaviour → Prop
  | .script edits _ => ∀ path, .remove path ∉ edits
  | _ => True

theorem Rehearsal.removesNothing {r : Rehearsal} {i : Invocation} (h : (r i.target).RemovesNothing) (s : Store) :
    r.runner.RemovesNothing i s := by
  intro path hthere
  show ((run (r i.target) i s).2.get? path).isSome
  generalize r i.target = b at h
  cases b with
  | script edits ending => exact Store.isSome_get?_applyAll h hthere
  | produce stderr =>
    have hplain : Behaviour.IsPlain (.produce stderr) := trivial
    rcases run_cases hplain i s with he | ⟨content, _, he⟩
    · rw [he]; exact hthere
    · rw [he]; exact Store.isSome_get?_write _ content hthere
  | _ => exact hthere

namespace Build

/-! ## Steps -/

section Steps

variable {σ : Type u} [FileView σ] {runner : Runner σ} {root : String} {dryRun : Bool} {rebuilt : NameSet} {w : σ}
  {t : Target} {ts : List Target} {r : StepResult} {rs : List StepResult} {name : Name}

/-- A name that no step misses: it is there or, in a dry run, would have been rebuilt. -/
def Available (root : String) (dryRun : Bool) (rebuilt : NameSet) (w : σ) (name : Name) : Prop :=
  FileView.isThere w (Path.join root name) = true ∨ dryRun = true ∧ name ∈ rebuilt

theorem isThere_of_available (h : Available root false rebuilt w name) :
    FileView.isThere w (Path.join root name) = true :=
  h.resolve_right fun hdry => Bool.false_ne_true hdry.1

/-- What a step misses is one of its dependencies. -/
theorem not_available_of_missing {dep : Name} (h : missingSource? root dryRun rebuilt w t = some dep) :
    dep ∈ t.deps ∧ ¬ Available root dryRun rebuilt w dep := by
  refine ⟨List.mem_of_find?_eq_some h, ?_⟩
  have hmissing := List.find?_some h
  rw [Bool.not_eq_true', Bool.or_eq_false_iff, Bool.and_eq_false_iff] at hmissing
  rintro (hthere | ⟨hdry, hm⟩)
  · rw [hthere] at hmissing; cases hmissing.1
  · rcases hmissing.2 with hno | hno
    · rw [hdry] at hno; cases hno
    · rw [show rebuilt.contains dep = true from hm] at hno; cases hno

/-- A step that ends well misses none of its dependencies. -/
theorem available_deps (h : (runStep runner root dryRun rebuilt w t).result = .ok r) :
    ∀ dep ∈ t.deps, Available root dryRun rebuilt w dep := by
  have hexit := stepExit runner root dryRun rebuilt w t
  generalize runStep runner root dryRun rebuilt w t = step at h hexit
  cases hexit with
  | missing => cases h
  | unreadable => cases h
  | current hdeps => exact missingSource?_eq_none_iff.mp hdeps
  | planned hdeps => exact missingSource?_eq_none_iff.mp hdeps
  | invoked hdeps => exact missingSource?_eq_none_iff.mp hdeps

/-- A step whose command removes nothing removes nothing. -/
theorem isThere_runStep (hk : ∀ i ∈ (runStep runner root dryRun rebuilt w t).invoked, runner.RemovesNothing i w)
    {path : String} (h : FileView.isThere w path = true) :
    FileView.isThere (runStep runner root dryRun rebuilt w t).world path = true := by
  have hexit := stepExit runner root dryRun rebuilt w t
  generalize runStep runner root dryRun rebuilt w t = step at hk hexit
  cases hexit with
  | invoked => exact hk _ List.mem_cons_self path h
  | _ => exact h

theorem Available.runStep
    (hk : ∀ i ∈ (Build.runStep runner root dryRun rebuilt w t).invoked, runner.RemovesNothing i w)
    (h : Available root dryRun rebuilt w name) (r : StepResult) :
    Available root dryRun (markRebuilt rebuilt r) (Build.runStep runner root dryRun rebuilt w t).world name :=
  h.imp (isThere_runStep hk) fun ⟨hdry, hm⟩ => ⟨hdry, mem_markRebuilt.mpr (Or.inl hm)⟩

/-- Whether the commands of steps remove nothing; those of a dry run are not invoked. -/
def CallsRemoveNothing (runner : Runner σ) (root : String) (dryRun : Bool) (rebuilt : NameSet) (w : σ)
    (ts : List Target) : Prop :=
  dryRun = false → ∀ call ∈ calls runner root rebuilt w ts, runner.RemovesNothing call.1 call.2

theorem callsRemoveNothing_dry : CallsRemoveNothing runner root true rebuilt w ts :=
  nofun

theorem CallsRemoveNothing.of_append {us : List Target}
    (hk : CallsRemoveNothing runner root dryRun rebuilt w (ts ++ us)) :
    CallsRemoveNothing runner root dryRun rebuilt w ts :=
  fun hreal call hcall => hk hreal call (mem_calls_append hcall)

theorem callsRemoveNothing_cons (hk : CallsRemoveNothing runner root dryRun rebuilt w (t :: ts))
    (h : (runStep runner root dryRun rebuilt w t).result = .ok r) :
    (∀ i ∈ (runStep runner root dryRun rebuilt w t).invoked, runner.RemovesNothing i w) ∧
      CallsRemoveNothing runner root dryRun (markRebuilt rebuilt r)
        (runStep runner root dryRun rebuilt w t).world ts := by
  cases dryRun with
  | true =>
    rw [(runStep_dry runner root rebuilt w t).1]
    exact ⟨nofun, nofun⟩
  | false =>
    have hcalls := hk rfl
    rw [calls_of_ok h, List.forall_mem_append] at hcalls
    exact ⟨fun i hi => hcalls.1 (i, w) (List.mem_map_of_mem hi), fun _ => hcalls.2⟩

/-- Steps that end well, and whose commands remove nothing, keep the names that are available. -/
theorem Available.runSteps (hk : CallsRemoveNothing runner root dryRun rebuilt w ts)
    (hr : (Build.runSteps runner root dryRun rebuilt w ts).result = .ok rs)
    (h : Available root dryRun rebuilt w name) :
    Available root dryRun (marks rebuilt rs) (Build.runSteps runner root dryRun rebuilt w ts).world name := by
  induction ts generalizing rebuilt w rs with
  | nil => cases hr; exact h
  | cons t ts ih =>
    obtain ⟨r, rest, hstep, rfl, hrest⟩ := exists_of_runSteps_ok hr
    obtain ⟨hown, hlater⟩ := callsRemoveNothing_cons hk hstep
    rw [runSteps_of_ok hstep]
    exact ih hlater hrest (h.runStep hown r)

end Steps

/-! ## Runs -/

variable {σ : Type u} [StoreView σ] {runner : Runner σ} {root : String} {dryRun : Bool} {rebuilt : NameSet} {w : σ}
  {t : Target} {ts before after : List Target} {r : StepResult} {rs : List StepResult} {failure : Failure}
  {rules : RuleSet} {name : Name}

/-- A target is available after its step has ended well: its output was found there, was made, or would be. -/
theorem available_target (h : (runStep runner root dryRun rebuilt w t).result = .ok r) :
    Available root dryRun (markRebuilt rebuilt r) (runStep runner root dryRun rebuilt w t).world t.name := by
  have hcase := stepCase runner root dryRun rebuilt w t
  generalize runStep runner root dryRun rebuilt w t = step at h hcase
  unfold Available
  rw [StoreView.isThere_eq]
  cases hcase with
  | missing => cases h
  | failed => cases h
  | current _ hcurrent =>
    obtain ⟨output, hfile, _⟩ := Staleness.ofStore_eq_upToDate.mp hcurrent
    exact Or.inl (Option.isSome_iff_exists.mpr ⟨output, hfile⟩)
  | planned _ _ hdry =>
    cases h
    exact Or.inr ⟨hdry, mem_markRebuilt.mpr (Or.inr ⟨by simp, rfl⟩)⟩
  | built _ _ _ _ _ hmade => exact Or.inl hmade

/-- After a step that ends well, and whose command removes nothing, its target and its dependencies are available. -/
theorem available_of_runStep
    (hk : ∀ i ∈ (runStep runner root dryRun rebuilt w t).invoked, runner.RemovesNothing i w)
    (h : (runStep runner root dryRun rebuilt w t).result = .ok r) : ∀ name ∈ t.name :: t.deps,
    Available root dryRun (markRebuilt rebuilt r) (runStep runner root dryRun rebuilt w t).world name :=
  List.forall_mem_cons.mpr ⟨available_target h, fun dep hdep => (available_deps h dep hdep).runStep hk r⟩

/-- After steps that end well, and whose commands remove nothing, their targets and dependencies are available. -/
theorem available_of_runSteps (hk : CallsRemoveNothing runner root dryRun rebuilt w ts)
    (h : (runSteps runner root dryRun rebuilt w ts).result = .ok rs) : ∀ t ∈ ts, ∀ name ∈ t.name :: t.deps,
    Available root dryRun (marks rebuilt rs) (runSteps runner root dryRun rebuilt w ts).world name := by
  induction ts generalizing rebuilt w rs with
  | nil => simp
  | cons t ts ih =>
    obtain ⟨r, rest, hstep, rfl, hrest⟩ := exists_of_runSteps_ok h
    obtain ⟨hown, hlater⟩ := callsRemoveNothing_cons hk hstep
    rw [runSteps_of_ok hstep]
    refine List.forall_mem_cons.mpr ⟨fun name hname => ?_, ih hlater hrest⟩
    exact (available_of_runStep hown hstep name hname).runSteps hlater hrest

/-! ## Missing dependencies -/

/-- A dependency that has a rule is available when its turn comes, for its own step has come before. -/
theorem available_of_rule (ho : rules.Orderly [] (before ++ t :: after))
    (hk : CallsRemoveNothing runner root dryRun ∅ w before)
    (hok : (runSteps runner root dryRun ∅ w before).result = .ok rs) {dep : Name} (hdep : dep ∈ t.deps)
    (hrule : (rules.get? dep).isSome) :
    Available root dryRun (marks ∅ rs) (runSteps runner root dryRun ∅ w before).world dep := by
  have hbehind := (RuleSet.orderly_append.mp ho).2.2.2.1 dep hdep hrule
  rw [List.append_nil, List.mem_reverse] at hbehind
  obtain ⟨u, hu, rfl⟩ := List.mem_map.mp hbehind
  exact available_of_runSteps hk hok u hu u.name List.mem_cons_self

/-- What a step of a plan misses, after steps that ended well and whose commands removed nothing, has no rule. -/
theorem leaf_of_missing (ho : rules.Orderly [] (before ++ t :: after))
    (hk : CallsRemoveNothing runner root dryRun ∅ w before)
    (hok : (runSteps runner root dryRun ∅ w before).result = .ok rs) {dep : Name}
    (h : missingSource? root dryRun (marks ∅ rs) (runSteps runner root dryRun ∅ w before).world t = some dep) :
    dep ∈ t.deps ∧ rules.get? dep = none ∧
      FileView.isThere (runSteps runner root dryRun ∅ w before).world (Path.join root dep) = false := by
  obtain ⟨hdep, hmissing⟩ := not_available_of_missing h
  refine ⟨hdep, ?_, Bool.eq_false_iff.mpr fun hthere => hmissing (Or.inl hthere)⟩
  exact Option.not_isSome_iff_eq_none.mp fun hrule => hmissing (available_of_rule ho hk hok hdep hrule)

/-- A run fails for a missing dependency at a step that has it, and it has no rule and is not there. -/
theorem leaf_of_runSteps_error (ho : rules.Orderly [] ts) (hk : CallsRemoveNothing runner root dryRun ∅ w ts)
    {dep : Name} (h : (runSteps runner root dryRun ∅ w ts).result = .error (.missingSource dep)) :
    rules.get? dep = none ∧ (∃ t ∈ ts, dep ∈ t.deps) ∧
      FileView.isThere (runSteps runner root dryRun ∅ w ts).world (Path.join root dep) = false := by
  obtain ⟨before, t, after, rs, rfl, hok, hfail⟩ := exists_of_runSteps_error h
  rw [runSteps_append_cons_of_error hok hfail]
  dsimp only
  have hcase := stepCase runner root dryRun (marks ∅ rs) (runSteps runner root dryRun ∅ w before).world t
  generalize runStep runner root dryRun (marks ∅ rs) (runSteps runner root dryRun ∅ w before).world t = step
    at hfail hcase
  cases hcase with
  | missing hmissing =>
    cases hfail
    obtain ⟨hdep, hleaf, habsent⟩ := leaf_of_missing ho hk.of_append hok hmissing
    exact ⟨hleaf, ⟨t, by simp, hdep⟩, habsent⟩
  | current => cases hfail
  | planned => cases hfail
  | failed _ _ _ hblame => cases hfail; cases hblame
  | built => cases hfail

/-! ## Dry runs -/

/-- The first dependency of some steps that has no rule and is not there. -/
def missingLeaf? (rules : RuleSet) (root : String) (w : σ) (ts : List Target) : Option Name :=
  (ts.flatMap Target.deps).find? fun dep => (rules.get? dep).isNone && !FileView.isThere w (Path.join root dep)

theorem missingLeaf?_append {us : List Target} :
    missingLeaf? rules root w (ts ++ us) = (missingLeaf? rules root w ts).or (missingLeaf? rules root w us) := by
  unfold missingLeaf?
  rw [List.flatMap_append, List.find?_append]

theorem exists_missingLeaf?_iff : (∃ x, missingLeaf? rules root w ts = some x) ↔
    ∃ t ∈ ts, ∃ dep ∈ t.deps, rules.get? dep = none ∧ FileView.isThere w (Path.join root dep) = false := by
  rw [← Option.isSome_iff_exists, missingLeaf?, List.find?_isSome]
  constructor
  · rintro ⟨dep, hdep, hleaf⟩
    obtain ⟨t, ht, hdep⟩ := List.mem_flatMap.mp hdep
    exact ⟨t, ht, dep, hdep, by simpa using hleaf⟩
  · rintro ⟨t, ht, dep, hdep, hleaf⟩
    exact ⟨dep, List.mem_flatMap.mpr ⟨t, ht, hdep⟩, by simpa using hleaf⟩

/-- A name without a rule is not rebuilt. -/
theorem not_mem_marks (ho : rules.Orderly [] ts) (h : (runSteps runner root dryRun ∅ w ts).result = .ok rs)
    (hleaf : rules.get? name = none) : name ∉ marks ∅ rs := by
  intro hm
  obtain ⟨r, hr, _, rfl⟩ := (mem_marks.mp hm).resolve_left (by simp)
  obtain ⟨t, ht, hname⟩ := List.mem_map.mp (targets_of_runSteps h ▸ List.mem_map_of_mem hr)
  rw [← hname, RuleSet.get?_of_mem (ho.mem_targets t ht)] at hleaf
  cases hleaf

/-- Where a dry run ends well, all dependencies without a rule are there. -/
theorem missingLeaf?_eq_none (ho : rules.Orderly [] ts) (h : (runSteps runner root true ∅ w ts).result = .ok rs) :
    missingLeaf? rules root w ts = none := by
  refine List.find?_eq_none.mpr fun dep hdep => ?_
  obtain ⟨t, ht, hdep⟩ := List.mem_flatMap.mp hdep
  have hend := available_of_runSteps callsRemoveNothing_dry h t ht dep (List.mem_cons_of_mem _ hdep)
  rw [(runSteps_dry runner root ∅ w ts).2] at hend
  cases hleaf : rules.get? dep with
  | some u => simp
  | none => simp [hend.resolve_right fun hm => not_mem_marks ho h hleaf hm.2]

/-- What a step of a dry run misses is its first dependency that has no rule and is not there. -/
theorem missingSource?_dry (ho : rules.Orderly [] (before ++ t :: after))
    (hok : (runSteps runner root true ∅ w before).result = .ok rs) :
    missingSource? root true (marks ∅ rs) w t = missingLeaf? rules root w [t] := by
  unfold missingSource? missingLeaf?
  rw [List.flatMap_singleton]
  refine List.find?_congr fun dep hdep => ?_
  -- what has no rule is never marked, and what has one was found there or marked before
  cases hrule : rules.get? dep with
  | none =>
    have hnew := not_mem_marks (RuleSet.orderly_append.mp ho).1 hok hrule
    rw [show (marks ∅ rs).contains dep = false from Bool.eq_false_iff.mpr hnew]
    simp
  | some u =>
    have hbehind := available_of_rule ho callsRemoveNothing_dry hok hdep (by rw [hrule]; rfl)
    rw [(runSteps_dry runner root ∅ w before).2] at hbehind
    rcases hbehind with hthere | ⟨_, hm⟩
    · simp [hthere]
    · simp [show (marks ∅ rs).contains dep = true from hm]

/-- A dry run fails for the first dependency of its steps that has no rule and is not there. -/
theorem exists_missingLeaf?_of_dry_error (ho : rules.Orderly [] ts)
    (h : (runSteps runner root true ∅ w ts).result = .error failure) :
    ∃ dep, failure = .missingSource dep ∧ missingLeaf? rules root w ts = some dep := by
  obtain ⟨before, t, after, rs, rfl, hok, hfail⟩ := exists_of_runSteps_error h
  rw [(runSteps_dry runner root ∅ w before).2, result_runStep_dry, missingSource?_dry ho hok] at hfail
  cases hfirst : missingLeaf? rules root w [t] with
  | none => rw [hfirst] at hfail; cases hfail
  | some dep =>
    rw [hfirst] at hfail
    cases hfail
    refine ⟨dep, rfl, ?_⟩
    -- the steps before it have ended well, so none of theirs is missing
    rw [missingLeaf?_append, missingLeaf?_eq_none (RuleSet.orderly_append.mp ho).1 hok, Option.none_or,
      ← List.singleton_append, missingLeaf?_append, hfirst, Option.some_or]

/-- A dry run fails exactly for the first dependency of its steps that has no rule and is not there. -/
theorem runSteps_dry_error_iff (ho : rules.Orderly [] ts) :
    (runSteps runner root true ∅ w ts).result = .error failure ↔
      ∃ dep, failure = .missingSource dep ∧ missingLeaf? rules root w ts = some dep := by
  refine ⟨exists_missingLeaf?_of_dry_error ho, ?_⟩
  rintro ⟨dep, rfl, hdep⟩
  cases hrun : (runSteps runner root true ∅ w ts).result with
  | ok rs => rw [missingLeaf?_eq_none ho hrun] at hdep; cases hdep
  | error failure =>
    obtain ⟨dep', rfl, hdep'⟩ := exists_missingLeaf?_of_dry_error ho hrun
    rw [Option.some.inj (hdep.symm.trans hdep')]

/-! ## Plans -/

variable {target : Option Name} {plan : Plan}

/-- A requested name without a rule is there. -/
theorem isThere_of_requested (hp : (Graph.ofRules rules).planFor root w target = .ok plan)
    (hname : name ∈ target.elim (Graph.ofRules rules).targets ([·])) (hleaf : rules.get? name = none) :
    FileView.isThere w (Path.join root name) = true := by
  have hrule : ¬ ∃ t ∈ rules.targets, t.name = name := by
    rintro ⟨t, ht, rfl⟩
    rw [RuleSet.get?_of_mem ht] at hleaf
    cases hleaf
  cases target with
  | none => exact absurd (List.mem_map.mp hname) hrule
  | some requested =>
    obtain rfl := List.mem_singleton.mp hname
    rcases Graph.planFor_cases (Graph.ofRules rules) root w (some name) with ⟨_, _, _, hunknown⟩ | ⟨hknown, _⟩
    · rw [hp] at hunknown; cases hunknown
    · exact (hknown name rfl).2.resolve_left fun ht => hrule (Graph.isTarget_ofRules.mp ht)

/-- All names of a plan are available after its steps have ended well, if their commands remove nothing. -/
theorem available_of_mem_closure (hp : (Graph.ofRules rules).planFor root w target = .ok plan)
    (hk : CallsRemoveNothing runner root dryRun ∅ w plan.steps)
    (h : (runSteps runner root dryRun ∅ w plan.steps).result = .ok rs) (hn : name ∈ plan.closure) :
    Available root dryRun (marks ∅ rs) (runSteps runner root dryRun ∅ w plan.steps).world name := by
  have hplan := Graph.planFrom_of_planFor hp
  have horder := Graph.buildOrder_of_closure hplan.closure
  have hsteps := available_of_runSteps hk h
  cases hrule : rules.get? name with
  | some t =>
    obtain rfl := RuleSet.name_of_get? hrule
    exact hsteps t (hplan.mem_steps.mpr ⟨RuleSet.mem_of_get? hrule, hn⟩) t.name List.mem_cons_self
  | none =>
    -- a name without a rule was requested itself, or a step depends on it
    obtain ⟨requested, hrequested, hreach⟩ := (horder.mem_iff name).mp hn
    rcases Relation.ReflTransGen.cases_tail hreach with rfl | ⟨dependent, hreach, hdep⟩
    · exact Available.runSteps hk h (Or.inl (isThere_of_requested hp hrequested hrule))
    · obtain ⟨t, ht, rfl, hmem⟩ := Graph.mem_dependencies_ofRules.mp hdep
      have hstep : t ∈ plan.steps := hplan.mem_steps.mpr ⟨ht, (horder.mem_iff t.name).mpr ⟨_, hrequested, hreach⟩⟩
      exact hsteps t hstep name (List.mem_cons_of_mem _ hmem)

end Build

/-- **Only leaves are missing.** Let a request have a plan. If a build of it fails because a dependency is missing, and
it is a dry run or its commands remove nothing, then what is missing has no rule, a step of the plan depends on it, and
it is not there when the build fails. A dry run fails for the first dependency in the order of the plan that has no rule
and is not there, and for nothing else: it fails for a missing dependency exactly if there is such a one. -/
theorem missing_source_is_leaf {σ : Type u} [StoreView σ] (runner : Runner σ) (root : String) (rules : RuleSet)
    (target : Option Name) (w : σ) (plan : Plan) (h : (Graph.ofRules rules).planFor root w target = .ok plan) :
    (∀ dryRun, (dryRun = false → ∀ call ∈ buildCalls runner root rules target w,
        runner.RemovesNothing call.1 call.2) →
      let run := buildRules runner root rules target dryRun w
      ∀ x, run.result = .error (.missingSource x) → rules.get? x = none ∧ (∃ t ∈ plan.steps, x ∈ t.deps) ∧
        FileView.isThere run.world (Path.join root x) = false) ∧
    let dry := buildRules runner root rules target true w
    (∀ failure, dry.result = .error failure ↔
      ∃ x, failure = .missingSource x ∧ Build.missingLeaf? rules root w plan.steps = some x) ∧
    ((∃ x, dry.result = .error (.missingSource x)) ↔ ∃ t ∈ plan.steps, ∃ dep ∈ t.deps, rules.get? dep = none ∧
      FileView.isThere w (Path.join root dep) = false) := by
  have ho := Graph.orderly_of_planFor h
  have hdry (failure : Failure) : (buildRules runner root rules target true w).result = .error failure ↔
      ∃ x, failure = .missingSource x ∧ Build.missingLeaf? rules root w plan.steps = some x :=
    (buildRules_error_iff_of_plan h).trans (Build.runSteps_dry_error_iff ho)
  refine ⟨?_, hdry, ?_⟩
  · intro dryRun hk run x hfail
    have hcalls : Build.CallsRemoveNothing runner root dryRun ∅ w plan.steps := by rwa [buildCalls_of_plan h] at hk
    rw [show run = _ from buildRules_of_plan h]
    exact Build.leaf_of_runSteps_error ho hcalls ((buildRules_error_iff_of_plan h).mp hfail)
  · rw [← Build.exists_missingLeaf?_iff]
    simp only [hdry, Failure.missingSource.injEq, exists_eq_left']

/-- `B` is there, and `D` depends on `C` and on a leaf `X` that is not: a build makes `C` before it finds `X` missing,
and a dry run makes nothing and finds the same. -/
theorem missing_source_is_leaf_fork :
    let rules : RuleSet := ⟨[⟨"B", ["A"], "cat", ["A"]⟩, ⟨"C", ["B"], "cat", ["B"]⟩, ⟨"D", ["C", "X"], "cat", ["C"]⟩],
      by decide, by decide⟩
    let s := Store.empty.applyAll [.write "A" "a".toUTF8, .write "B" "b".toUTF8]
    let plan : Plan := ⟨rules.targets, ["A", "B", "C", "X", "D"]⟩
    let commands := Rehearsal.usual.runner
    let run := buildRules commands "." rules (some "D") false s
    (Graph.ofRules rules).planFor "." s (some "D") = .ok plan ∧
      (∀ call ∈ buildCalls commands "." rules (some "D") s, commands.RemovesNothing call.1 call.2) ∧
      run.result = .error (.missingSource "X") ∧ run.invoked.map Invocation.target = ["C"] ∧
      (rules.get? "X" = none ∧ (∃ t ∈ plan.steps, "X" ∈ t.deps) ∧
        FileView.isThere run.world (Path.join "." "X") = false) ∧
      (buildRules commands "." rules (some "D") true s).result = .error (.missingSource "X") := by
  intro rules s plan commands run
  have hplan : (Graph.ofRules rules).planFor "." s (some "D") = .ok plan := by decide +kernel
  have hfail : run.result = .error (.missingSource "X") := by decide +kernel
  have hinvoked : run.invoked.map Invocation.target = ["C"] := by decide +kernel
  have hfirst : Build.missingLeaf? rules "." s plan.steps = some "X" := by decide +kernel
  have hkeep : ∀ call ∈ buildCalls commands "." rules (some "D") s, commands.RemovesNothing call.1 call.2 :=
    fun call _ => Rehearsal.removesNothing (r := .usual) trivial call.2
  obtain ⟨hleaf, hdry, _⟩ := missing_source_is_leaf commands "." rules (some "D") s plan hplan
  exact ⟨hplan, hkeep, hfail, hinvoked, hleaf false (fun _ => hkeep) "X" hfail,
    (hdry _).mpr ⟨"X", rfl, hfirst⟩⟩

/-- **What is listed is there.** After a build that ends well, and whose commands remove nothing, every name of its
listing is there, be it a target that was built or found up to date, a dependency without a rule, or a requested name
without one. After a dry run that ends well, every name listed is there or is that of a target that would be built. -/
theorem listed_is_there {σ : Type u} [StoreView σ] (runner : Runner σ) (root : String) (rules : RuleSet)
    (target : Option Name) (w : σ) (outcome : Outcome) :
    ((∀ call ∈ buildCalls runner root rules target w, runner.RemovesNothing call.1 call.2) →
      let run := buildRules runner root rules target false w
      run.result = .ok outcome → ∀ name ∈ outcome.listing, FileView.isThere run.world (Path.join root name) = true) ∧
    ((buildRules runner root rules target true w).result = .ok outcome → ∀ name ∈ outcome.listing,
      FileView.isThere w (Path.join root name) = true ∨ name ∈ outcome.report.withOutcome .wouldBuild) := by
  refine ⟨?_, fun hok name hn => ?_⟩
  · intro hk run hok name hn
    obtain ⟨hp, hrun, hlisting⟩ := exists_of_buildRules_ok hok
    rw [hlisting, mem_listing] at hn
    rw [buildCalls_of_plan hp] at hk
    rw [show run = _ from buildRules_of_plan hp]
    exact Build.isThere_of_available (Build.available_of_mem_closure hp (fun _ => hk) hrun hn)
  · obtain ⟨hp, hrun, hlisting⟩ := exists_of_buildRules_ok hok
    rw [hlisting, mem_listing] at hn
    have hend := Build.available_of_mem_closure hp Build.callsRemoveNothing_dry hrun hn
    rw [(Build.runSteps_dry runner root ∅ w outcome.plan.steps).2] at hend
    refine hend.imp_right fun ⟨_, hm⟩ => ?_
    obtain ⟨r, hr, hstale, rfl⟩ := (Build.mem_marks.mp hm).resolve_left (by simp)
    have houtcome := Build.forall_of_runSteps_ok (fun _ _ _ _ => Build.outcome_eq_ofStale_iff) hrun r hr
    exact Report.mem_withOutcome.mpr ⟨r, hr, houtcome.mpr hstale, rfl⟩

/-- The command of `C` writes another file beside its output and sets back the time of `B`, which is up to date; a
request for the leaf `A` needs no step; and a dry run lists `C`, which is not there yet. -/
theorem listed_is_there_chain :
    let commands := (Rehearsal.usual.set "C"
      (.script [.write "log" "c".toUTF8, .write "C" "b".toUTF8, .stamp "B" 0] (.ok ⟨.exited 0, "", ""⟩))).runner
    let s := Store.empty.applyAll [.write "A" "a".toUTF8, .write "B" "b".toUTF8]
    let run := buildRules commands "." .chain none false s
    (∀ target, ∀ call ∈ buildCalls commands "." .chain target s, commands.RemovesNothing call.1 call.2) ∧
      ∃ all leaf planned, run.result = .ok all ∧ all.report.built = ["C"] ∧ all.report.upToDate = ["B"] ∧
        all.listing = ["A", "B", "C"] ∧ (∀ name ∈ all.listing, FileView.isThere run.world (Path.join "." name) = true) ∧
        (buildRules commands "." .chain (some "A") false s).result = .ok leaf ∧ leaf.listing = ["A"] ∧
        (∀ name ∈ leaf.listing, FileView.isThere (buildRules commands "." .chain (some "A") false s).world
          (Path.join "." name) = true) ∧
        (buildRules commands "." .chain none true s).result = .ok planned ∧
        (∀ name ∈ planned.listing, FileView.isThere s (Path.join "." name) = true ∨
          name ∈ planned.report.withOutcome .wouldBuild) := by
  intro commands s run
  have hkeep : ∀ target, ∀ call ∈ buildCalls commands "." .chain target s,
      commands.RemovesNothing call.1 call.2 := by
    refine fun target call _ => Rehearsal.removesNothing ?_ call.2
    unfold Rehearsal.set
    split
    · simp [Behaviour.RemovesNothing]
    · trivial
  obtain ⟨all, hall, hparts⟩ : ∃ o, run.result = .ok o ∧
      (o.report.built, o.report.upToDate, o.listing) = (["C"], ["B"], ["A", "B", "C"]) :=
    exists_ok_of_map_toOption (by decide +kernel)
  obtain ⟨leaf, hleaf, hlisting⟩ : ∃ o, (buildRules commands "." .chain (some "A") false s).result = .ok o ∧
      o.listing = ["A"] := exists_ok_of_map_toOption (by decide +kernel)
  obtain ⟨planned, hplanned, _⟩ : ∃ o, (buildRules commands "." .chain none true s).result = .ok o ∧
      o.listing = ["A", "B", "C"] := exists_ok_of_map_toOption (by decide +kernel)
  obtain ⟨hbuilt, hrest⟩ := Prod.mk.inj hparts
  obtain ⟨hcurrent, hnames⟩ := Prod.mk.inj hrest
  exact ⟨hkeep, all, leaf, planned, hall, hbuilt, hcurrent, hnames,
    (listed_is_there commands "." .chain none s all).1 (hkeep none) hall, hleaf, hlisting,
    (listed_is_there commands "." .chain (some "A") s leaf).1 (hkeep (some "A")) hleaf, hplanned,
    (listed_is_there commands "." .chain none s planned).2 hplanned⟩

end Rebuild
