import Rebuild.Proofs.Build.Exit
import Rebuild.Proofs.Graph.Visit

/-!
# The steps of a plan, one after the other

How runs of steps come apart: after the first step (`exists_of_runSteps_ok`), after any number of them
(`runSteps_append_of_ok`, `runSteps_append_of_error`), and at the step that fails (`exists_of_runSteps_error`).
`Build.calls` lists the commands of a run, each with the world that it starts in; a dry run has none and changes nothing
(`runSteps_dry`).
-/

namespace Rebuild

theorem Report.mem_withOutcome {report : Report} {outcome : StepOutcome} {name : Name} :
    name ∈ report.withOutcome outcome ↔ ∃ r ∈ report.results, r.outcome = outcome ∧ r.target = name := by
  simp [withOutcome, and_assoc]

/-- What is known of the value of a result is known of a result that ended well. -/
theorem exists_ok_of_map_toOption {ε : Type u} {α : Type v} {β : Type w} {result : Except ε α} {f : α → β} {b : β}
    (h : result.toOption.map f = some b) : ∃ a, result = .ok a ∧ f a = b := by
  cases result with
  | error failure => cases h
  | ok a => exact ⟨a, rfl, Option.some.inj h⟩

namespace Build

/-! ## Marks -/

/-- The names rebuilt after steps with these results. -/
def marks (rebuilt : NameSet) (rs : List StepResult) : NameSet :=
  rs.foldl markRebuilt rebuilt

theorem mem_markRebuilt {rebuilt : NameSet} {r : StepResult} {name : Name} :
    name ∈ markRebuilt rebuilt r ↔ name ∈ rebuilt ∨ r.outcome ≠ .upToDate ∧ name = r.target := by
  unfold markRebuilt
  split
  · next h => simp [h]
  · next h => rw [NameSet.mem_insert, or_comm]; simp [h]

theorem markRebuilt_of_built {rebuilt : NameSet} {r : StepResult} (h : r.outcome = .built) :
    markRebuilt rebuilt r = rebuilt.insert r.target :=
  if_neg (by rw [h]; decide)

theorem mem_marks {rs : List StepResult} : ∀ {rebuilt : NameSet} {name : Name},
    name ∈ marks rebuilt rs ↔ name ∈ rebuilt ∨ ∃ r ∈ rs, r.outcome ≠ .upToDate ∧ name = r.target := by
  induction rs with
  | nil => simp [marks]
  | cons r rs ih =>
    intro rebuilt name
    show name ∈ marks (markRebuilt rebuilt r) rs ↔ _
    simp only [ih, mem_markRebuilt, or_assoc, List.mem_cons, exists_eq_or_imp]

/-! ## Taking runs apart -/

section Runs

variable {σ : Type u} [FileView σ] {runner : Runner σ} {root : String} {dryRun : Bool} {rebuilt : NameSet} {w : σ}
  {t : Target} {ts us : List Target}

/-- The run of the steps that are left after a step with this result. -/
theorem runSteps_of_ok {r : StepResult} (h : (runStep runner root dryRun rebuilt w t).result = .ok r) :
    runSteps runner root dryRun rebuilt w (t :: ts) =
      let step := runStep runner root dryRun rebuilt w t
      let rest := runSteps runner root dryRun (markRebuilt rebuilt r) step.world ts
      ⟨rest.result.map (r :: ·), step.invoked ++ rest.invoked, rest.world⟩ := by
  rw [runSteps]
  split
  · next h' => rw [h] at h'; cases h'
  · next h' => rw [h] at h'; cases h'; rfl

theorem runSteps_of_error {failure : Failure}
    (h : (runStep runner root dryRun rebuilt w t).result = .error failure) :
    runSteps runner root dryRun rebuilt w (t :: ts) =
      let step := runStep runner root dryRun rebuilt w t
      ⟨.error failure, step.invoked, step.world⟩ := by
  rw [runSteps]
  split
  · next h' => rw [h] at h'; cases h'; rfl
  · next h' => rw [h] at h'; cases h'

/-- Steps end well if the first does and then the others. -/
theorem exists_of_runSteps_ok {rs : List StepResult}
    (h : (runSteps runner root dryRun rebuilt w (t :: ts)).result = .ok rs) :
    ∃ r rest, (runStep runner root dryRun rebuilt w t).result = .ok r ∧ rs = r :: rest ∧
      (runSteps runner root dryRun (markRebuilt rebuilt r) (runStep runner root dryRun rebuilt w t).world ts).result =
        .ok rest := by
  cases hstep : (runStep runner root dryRun rebuilt w t).result with
  | error failure => rw [runSteps_of_error hstep] at h; cases h
  | ok r =>
    rw [runSteps_of_ok hstep] at h
    dsimp only at h
    cases hrest : (runSteps runner root dryRun (markRebuilt rebuilt r)
        (runStep runner root dryRun rebuilt w t).world ts).result with
    | error failure => rw [hrest] at h; cases h
    | ok rest => rw [hrest] at h; cases h; exact ⟨r, rest, rfl, rfl, hrest⟩

/-- Further steps go on where steps that ended well have led. -/
theorem runSteps_append_of_ok {rs : List StepResult}
    (h : (runSteps runner root dryRun rebuilt w ts).result = .ok rs) :
    runSteps runner root dryRun rebuilt w (ts ++ us) =
      let first := runSteps runner root dryRun rebuilt w ts
      let rest := runSteps runner root dryRun (marks rebuilt rs) first.world us
      ⟨rest.result.map (rs ++ ·), first.invoked ++ rest.invoked, rest.world⟩ := by
  induction ts generalizing rebuilt w rs with
  | nil =>
    cases h
    show runSteps runner root dryRun rebuilt w us = ⟨(runSteps runner root dryRun rebuilt w us).result.map id, _, _⟩
    cases hr : runSteps runner root dryRun rebuilt w us with
    | mk result invoked world => cases result <;> simp [marks, hr, runSteps]
  | cons t ts ih =>
    obtain ⟨r, rest, hstep, rfl, hrest⟩ := exists_of_runSteps_ok h
    rw [List.cons_append, runSteps_of_ok hstep, runSteps_of_ok hstep]
    dsimp only
    rw [ih hrest, show marks rebuilt (r :: rest) = marks (markRebuilt rebuilt r) rest from rfl]
    dsimp only
    rw [List.append_assoc]
    cases (runSteps runner root dryRun (marks (markRebuilt rebuilt r) rest)
      (runSteps runner root dryRun (markRebuilt rebuilt r)
        (runStep runner root dryRun rebuilt w t).world ts).world us).result <;> rfl

/-- Steps that fail are not gone on with. -/
theorem runSteps_append_of_error {failure : Failure}
    (h : (runSteps runner root dryRun rebuilt w ts).result = .error failure) :
    runSteps runner root dryRun rebuilt w (ts ++ us) = runSteps runner root dryRun rebuilt w ts := by
  induction ts generalizing rebuilt w failure with
  | nil => cases h
  | cons t ts ih =>
    rw [List.cons_append]
    cases hstep : (runStep runner root dryRun rebuilt w t).result with
    | error failure => rw [runSteps_of_error hstep, runSteps_of_error hstep]
    | ok r =>
      rw [runSteps_of_ok hstep] at h ⊢
      rw [runSteps_of_ok hstep]
      dsimp only at h ⊢
      cases hrest : (runSteps runner root dryRun (markRebuilt rebuilt r)
          (runStep runner root dryRun rebuilt w t).world ts).result with
      | ok rest => rw [hrest] at h; cases h
      | error failure' => rw [ih hrest, hrest]

/-- Steps that end well have parts that do. -/
theorem exists_of_runSteps_append_ok {rs : List StepResult}
    (h : (runSteps runner root dryRun rebuilt w (ts ++ us)).result = .ok rs) :
    ∃ rs₁ rs₂, (runSteps runner root dryRun rebuilt w ts).result = .ok rs₁ ∧ rs = rs₁ ++ rs₂ ∧
      (runSteps runner root dryRun (marks rebuilt rs₁) (runSteps runner root dryRun rebuilt w ts).world us).result =
        .ok rs₂ := by
  cases hfirst : (runSteps runner root dryRun rebuilt w ts).result with
  | error failure => rw [runSteps_append_of_error hfirst, hfirst] at h; cases h
  | ok rs₁ =>
    rw [runSteps_append_of_ok hfirst] at h
    dsimp only at h
    cases hrest : (runSteps runner root dryRun (marks rebuilt rs₁)
        (runSteps runner root dryRun rebuilt w ts).world us).result with
    | error failure => rw [hrest] at h; cases h
    | ok rs₂ => rw [hrest] at h; cases h; exact ⟨rs₁, rs₂, rfl, rfl, hrest⟩

/-- What the result of every step that ends well satisfies, all results of steps satisfy. -/
theorem forall_of_runSteps_ok {P : StepResult → Prop}
    (hP : ∀ (rebuilt : NameSet) (w : σ) (t : Target) (r : StepResult),
      (runStep runner root dryRun rebuilt w t).result = .ok r → P r) {rs : List StepResult}
    (h : (runSteps runner root dryRun rebuilt w ts).result = .ok rs) : ∀ r ∈ rs, P r := by
  induction ts generalizing rebuilt w rs with
  | nil => cases h; simp
  | cons t ts ih =>
    obtain ⟨r, rest, hstep, rfl, hrest⟩ := exists_of_runSteps_ok h
    exact List.forall_mem_cons.mpr ⟨hP rebuilt w t r hstep, ih hrest⟩

/-- Steps that fail do so at one of them, after the others before it have ended well. -/
theorem exists_of_runSteps_error {failure : Failure}
    (h : (runSteps runner root dryRun rebuilt w ts).result = .error failure) :
    ∃ before t after rs, ts = before ++ t :: after ∧
      (runSteps runner root dryRun rebuilt w before).result = .ok rs ∧
      (runStep runner root dryRun (marks rebuilt rs) (runSteps runner root dryRun rebuilt w before).world t).result =
        .error failure := by
  induction ts generalizing rebuilt w with
  | nil => cases h
  | cons t ts ih =>
    cases hstep : (runStep runner root dryRun rebuilt w t).result with
    | error failure' =>
      rw [runSteps_of_error hstep] at h
      cases h
      exact ⟨[], t, ts, [], rfl, rfl, hstep⟩
    | ok r =>
      rw [runSteps_of_ok hstep] at h
      dsimp only at h
      cases hrest : (runSteps runner root dryRun (markRebuilt rebuilt r)
          (runStep runner root dryRun rebuilt w t).world ts).result with
      | ok rest => rw [hrest] at h; cases h
      | error failure' =>
        rw [hrest] at h
        cases h
        obtain ⟨before, u, after, rs, rfl, hbefore, hfail⟩ := ih hrest
        refine ⟨t :: before, u, after, r :: rs, rfl, ?_, ?_⟩
        · rw [runSteps_of_ok hstep]
          dsimp only
          rw [hbefore]
          rfl
        · rw [runSteps_of_ok hstep]
          exact hfail

/-- Steps that end well and then one that fails are the whole run. -/
theorem runSteps_append_cons_of_error {rs : List StepResult} {failure : Failure}
    (h : (runSteps runner root dryRun rebuilt w ts).result = .ok rs)
    (hfail : (runStep runner root dryRun (marks rebuilt rs) (runSteps runner root dryRun rebuilt w ts).world t).result =
      .error failure) :
    runSteps runner root dryRun rebuilt w (ts ++ t :: us) =
      let earlier := runSteps runner root dryRun rebuilt w ts
      let step := runStep runner root dryRun (marks rebuilt rs) earlier.world t
      ⟨.error failure, earlier.invoked ++ step.invoked, step.world⟩ := by
  rw [runSteps_append_of_ok h]
  dsimp only
  rw [runSteps_of_error hfail]
  rfl

/-- A step's result is about its target. -/
theorem target_of_runStep {r : StepResult}
    (h : (runStep runner root dryRun rebuilt w t).result = .ok r) : r.target = t.name := by
  have hexit := stepExit runner root dryRun rebuilt w t
  generalize runStep runner root dryRun rebuilt w t = step at h hexit
  cases hexit with
  | missing => cases h
  | unreadable => cases h
  | current => cases h; rfl
  | planned => cases h; rfl
  | invoked => obtain ⟨output, rfl, -⟩ := exists_of_resultOfCommand_ok h; rfl

/-- A step that ends well finds its target current by the files and by what was rebuilt before it, or rebuilds it. -/
theorem outcome_eq_upToDate_iff {r : StepResult} (h : (runStep runner root dryRun rebuilt w t).result = .ok r) :
    r.outcome = .upToDate ↔ Staleness.decide root rebuilt w t.name t.deps = .ok .upToDate := by
  have hexit := stepExit runner root dryRun rebuilt w t
  generalize runStep runner root dryRun rebuilt w t = step at h hexit
  have hnot {staleness : Staleness} (hdecide : Staleness.decide root rebuilt w t.name t.deps = .ok staleness)
      (hstale : staleness ≠ .upToDate) : Staleness.decide root rebuilt w t.name t.deps ≠ .ok .upToDate :=
    fun hcurrent => hstale (Except.ok.inj (hdecide.symm.trans hcurrent))
  cases hexit with
  | missing => cases h
  | unreadable => cases h
  | current _ hcurrent => cases h; exact iff_of_true rfl hcurrent
  | planned _ hdecide hstale => cases h; exact iff_of_false (by simp) (hnot hdecide hstale)
  | invoked _ hdecide hstale =>
    obtain ⟨output, rfl, -⟩ := exists_of_resultOfCommand_ok h
    exact iff_of_false (by simp) (hnot hdecide hstale)

/-- The results of steps are about their targets, in order. -/
theorem targets_of_runSteps {rs : List StepResult}
    (h : (runSteps runner root dryRun rebuilt w ts).result = .ok rs) :
    rs.map StepResult.target = ts.map Target.name := by
  induction ts generalizing rebuilt w rs with
  | nil => cases h; rfl
  | cons t ts ih =>
    obtain ⟨r, rest, hstep, rfl, hrest⟩ := exists_of_runSteps_ok h
    rw [List.map_cons, List.map_cons, target_of_runStep hstep, ih hrest]

/-- A target of a run that ends well is reported as current exactly if it is found current when its turn comes. -/
theorem mem_upToDate_iff_decide {before after : List Target} {rs : List StepResult}
    (hnames : ((before ++ t :: after).map Target.name).Nodup)
    (h : (runSteps runner root dryRun rebuilt w (before ++ t :: after)).result = .ok rs) :
    ∃ rs₁ rs₂, (runSteps runner root dryRun rebuilt w before).result = .ok rs₁ ∧ rs = rs₁ ++ rs₂ ∧
      (t.name ∈ (Report.mk rs).upToDate ↔ Staleness.decide root (marks rebuilt rs₁)
        (runSteps runner root dryRun rebuilt w before).world t.name t.deps = .ok .upToDate) := by
  have htargets := targets_of_runSteps h
  obtain ⟨rs₁, rs₂, hbefore, rfl, hrest⟩ := exists_of_runSteps_append_ok h
  obtain ⟨r, rest, hstep, rfl, _⟩ := exists_of_runSteps_ok hrest
  have htarget : r.target = t.name := target_of_runStep hstep
  -- no other result is about this target
  have hunique : ∀ r' ∈ rs₁ ++ r :: rest, r'.target = t.name → r' = r := fun r' hr' he =>
    List.inj_on_of_nodup_map (htargets ▸ hnames) hr' (List.mem_append_right _ List.mem_cons_self)
      (he.trans htarget.symm)
  refine ⟨rs₁, r :: rest, hbefore, rfl, ?_⟩
  rw [← outcome_eq_upToDate_iff hstep, Report.upToDate, Report.mem_withOutcome]
  constructor
  · rintro ⟨r', hr', houtcome, he⟩
    rwa [hunique r' hr' he] at houtcome
  · exact fun houtcome => ⟨r, List.mem_append_right _ List.mem_cons_self, houtcome, htarget⟩

/-- A step invokes at most the command of its target. -/
theorem eq_of_mem_invoked {i : Invocation} (h : i ∈ (runStep runner root dryRun rebuilt w t).invoked) :
    i = t.invocation root := by
  have hexit := stepExit runner root dryRun rebuilt w t
  generalize runStep runner root dryRun rebuilt w t = step at h hexit
  cases hexit with
  | missing => cases h
  | unreadable => cases h
  | current => cases h
  | planned => cases h
  | invoked => exact List.mem_singleton.mp h

/-- Steps invoke commands of their targets. -/
theorem exists_of_mem_invoked {i : Invocation}
    (h : i ∈ (runSteps runner root dryRun rebuilt w ts).invoked) : ∃ t ∈ ts, i = t.invocation root := by
  induction ts generalizing rebuilt w with
  | nil => cases h
  | cons t ts ih =>
    cases hstep : (runStep runner root dryRun rebuilt w t).result with
    | error failure =>
      rw [runSteps_of_error hstep] at h
      exact ⟨t, List.mem_cons_self, eq_of_mem_invoked h⟩
    | ok r =>
      rw [runSteps_of_ok hstep] at h
      rcases List.mem_append.mp h with h | h
      · exact ⟨t, List.mem_cons_self, eq_of_mem_invoked h⟩
      · obtain ⟨u, hu, he⟩ := ih h
        exact ⟨u, List.mem_cons_of_mem _ hu, he⟩

/-- A step that invokes nothing changes nothing. -/
theorem world_runStep_of_invoked_nil (h : (runStep runner root dryRun rebuilt w t).invoked = []) :
    (runStep runner root dryRun rebuilt w t).world = w := by
  have hexit := stepExit runner root dryRun rebuilt w t
  generalize runStep runner root dryRun rebuilt w t = step at h hexit
  cases hexit with
  | invoked => cases h
  | _ => rfl

/-- Steps that invoke nothing change nothing. -/
theorem world_runSteps_of_invoked_nil (h : (runSteps runner root dryRun rebuilt w ts).invoked = []) :
    (runSteps runner root dryRun rebuilt w ts).world = w := by
  induction ts generalizing rebuilt with
  | nil => rfl
  | cons t ts ih =>
    cases hstep : (runStep runner root dryRun rebuilt w t).result with
    | error failure =>
      rw [runSteps_of_error hstep] at h ⊢
      exact world_runStep_of_invoked_nil h
    | ok r =>
      rw [runSteps_of_ok hstep] at h ⊢
      dsimp only at h ⊢
      obtain ⟨hfirst, hrest⟩ := List.append_eq_nil_iff.mp h
      rw [world_runStep_of_invoked_nil hfirst] at hrest ⊢
      exact ih hrest

/-- What every command keeps, steps keep. -/
theorem keeps_runSteps {P : σ → Prop} (hk : ∀ i w, P w → P (runner i w).2) (h : P w) :
    P (runSteps runner root dryRun rebuilt w ts).world := by
  have hstep {rebuilt : NameSet} {w : σ} {t : Target} (h : P w) : P (runStep runner root dryRun rebuilt w t).world := by
    have hexit := stepExit runner root dryRun rebuilt w t
    generalize runStep runner root dryRun rebuilt w t = step at hexit
    cases hexit with
    | invoked => exact hk _ w h
    | _ => exact h
  induction ts generalizing rebuilt w with
  | nil => exact h
  | cons t ts ih =>
    cases hresult : (runStep runner root dryRun rebuilt w t).result with
    | error failure => rw [runSteps_of_error hresult]; exact hstep h
    | ok r => rw [runSteps_of_ok hresult]; exact ih (hstep h)

/-- A step of a dry run invokes nothing and changes nothing. -/
theorem runStep_dry (runner : Runner σ) (root : String) (rebuilt : NameSet) (w : σ) (t : Target) :
    (runStep runner root true rebuilt w t).invoked = [] ∧ (runStep runner root true rebuilt w t).world = w := by
  have hexit := stepExit runner root true rebuilt w t
  generalize runStep runner root true rebuilt w t = step at hexit
  cases hexit with
  | invoked _ _ _ hfalse => cases hfalse
  | _ => exact ⟨rfl, rfl⟩

/-- A dry run invokes nothing and changes nothing. -/
theorem runSteps_dry (runner : Runner σ) (root : String) (rebuilt : NameSet) (w : σ) (ts : List Target) :
    (runSteps runner root true rebuilt w ts).invoked = [] ∧ (runSteps runner root true rebuilt w ts).world = w := by
  have hnone : (runSteps runner root true rebuilt w ts).invoked = [] := by
    induction ts generalizing rebuilt w with
    | nil => rfl
    | cons t ts ih =>
      cases hstep : (runStep runner root true rebuilt w t).result with
      | error failure => rw [runSteps_of_error hstep]; exact (runStep_dry runner root rebuilt w t).1
      | ok r =>
        rw [runSteps_of_ok hstep]
        exact List.append_eq_nil_iff.mpr ⟨(runStep_dry runner root rebuilt w t).1, ih _ _⟩
  exact ⟨hnone, world_runSteps_of_invoked_nil hnone⟩

/-- The commands that the steps of a real run invoke, each with the world that it starts in. -/
def calls (runner : Runner σ) (root : String) (rebuilt : NameSet) (w : σ) : List Target → List (Invocation × σ)
  | [] => []
  | t :: ts =>
    let step := runStep runner root false rebuilt w t
    step.invoked.map (·, w) ++
      match step.result with
      | .error _ => []
      | .ok r => calls runner root (markRebuilt rebuilt r) step.world ts

theorem calls_of_ok {r : StepResult} (h : (runStep runner root false rebuilt w t).result = .ok r) :
    calls runner root rebuilt w (t :: ts) = (runStep runner root false rebuilt w t).invoked.map (·, w) ++
      calls runner root (markRebuilt rebuilt r) (runStep runner root false rebuilt w t).world ts := by
  rw [calls]
  split
  · next h' => rw [h] at h'; cases h'
  · next h' => rw [h] at h'; cases h'; rfl

/-- The commands of some steps are among those of these and further steps. -/
theorem mem_calls_append {call : Invocation × σ} (h : call ∈ calls runner root rebuilt w ts) :
    call ∈ calls runner root rebuilt w (ts ++ us) := by
  induction ts generalizing rebuilt w with
  | nil => cases h
  | cons t ts ih =>
    rw [calls] at h
    rw [List.cons_append, calls]
    rcases List.mem_append.mp h with h | h
    · exact List.mem_append_left _ h
    · refine List.mem_append_right _ ?_
      split at h
      · cases h
      · exact ih h

/-- The commands of a run are those that it records. -/
theorem map_fst_calls (runner : Runner σ) (root : String) (rebuilt : NameSet) (w : σ) (ts : List Target) :
    (calls runner root rebuilt w ts).map Prod.fst = (runSteps runner root false rebuilt w ts).invoked := by
  induction ts generalizing rebuilt w with
  | nil => rfl
  | cons t ts ih =>
    cases hstep : (runStep runner root false rebuilt w t).result with
    | error failure =>
      rw [runSteps_of_error hstep, calls, hstep]
      simp [Function.comp_def]
    | ok r =>
      rw [runSteps_of_ok hstep, calls_of_ok hstep, List.map_append, ih]
      simp [Function.comp_def]

/-- A command starts where the dependencies of its target are, and the world after its step is what it leaves. -/
theorem of_mem_invoked {i : Invocation} (h : i ∈ (runStep runner root false rebuilt w t).invoked) :
    (∀ dep ∈ i.deps, FileView.isThere w (Path.join root dep) = true) ∧
      (runStep runner root false rebuilt w t).world = (runner i w).2 := by
  have hexit := stepExit runner root false rebuilt w t
  generalize runStep runner root false rebuilt w t = step at h hexit
  cases hexit with
  | invoked hdeps =>
    obtain rfl := List.mem_singleton.mp h
    exact ⟨fun dep hdep => (missingSource?_eq_none_iff.mp hdeps dep hdep).resolve_right (by simp), rfl⟩
  | missing => cases h
  | unreadable => cases h
  | current => cases h
  | planned => cases h

/-- What the commands keep from where they start holds wherever one starts, and there the dependencies of its target
are. -/
theorem start_of_mem_calls {P : σ → Prop}
    (hkeeps : ∀ call ∈ calls runner root rebuilt w ts, P call.2 →
      (∀ dep ∈ call.1.deps, FileView.isThere call.2 (Path.join root dep) = true) → P (runner call.1 call.2).2)
    (h : P w) : ∀ call ∈ calls runner root rebuilt w ts,
      P call.2 ∧ ∀ dep ∈ call.1.deps, FileView.isThere call.2 (Path.join root dep) = true := by
  induction ts generalizing rebuilt w with
  | nil => nofun
  | cons t ts ih =>
    rw [calls] at hkeeps ⊢
    obtain ⟨hfirst, hrest⟩ := List.forall_mem_append.mp hkeeps
    have hstart : ∀ i ∈ (runStep runner root false rebuilt w t).invoked,
        ∀ dep ∈ i.deps, FileView.isThere w (Path.join root dep) = true := fun i hi => (of_mem_invoked hi).1
    have hworld : P (runStep runner root false rebuilt w t).world := by
      cases hinvoked : (runStep runner root false rebuilt w t).invoked with
      | nil => rw [world_runStep_of_invoked_nil hinvoked]; exact h
      | cons i is =>
        have hi : i ∈ (runStep runner root false rebuilt w t).invoked := hinvoked ▸ List.mem_cons_self
        rw [(of_mem_invoked hi).2]
        exact hfirst (i, w) (List.mem_map_of_mem hi) h (hstart i hi)
    refine List.forall_mem_append.mpr ⟨List.forall_mem_map.mpr fun i hi => ⟨h, hstart i hi⟩, ?_⟩
    cases hstep : (runStep runner root false rebuilt w t).result with
    | error failure => nofun
    | ok r =>
      rw [hstep] at hrest
      exact ih hrest hworld

end Runs

end Build

/-! ## Builds -/

section Builds

variable {σ : Type u} [FileView σ] {runner : Runner σ} {root : String} {rules : RuleSet} {target : Option Name}
  {dryRun : Bool} {w : σ}

/-- The commands that a build invokes, each with the world that it starts in. -/
def buildCalls (runner : Runner σ) (root : String) (rules : RuleSet) (target : Option Name) (w : σ) :
    List (Invocation × σ) :=
  match (Graph.ofRules rules).planFor root w target with
  | .error _ => []
  | .ok plan => Build.calls runner root ∅ w plan.steps

/-- A build whose request has a plan goes through its steps. -/
theorem buildRules_of_plan {plan : Plan} (h : (Graph.ofRules rules).planFor root w target = .ok plan) :
    buildRules runner root rules target dryRun w =
      let run := Build.runSteps runner root dryRun ∅ w plan.steps
      ⟨run.result.map fun rs => ⟨plan, ⟨rs⟩, listing plan.closure⟩, run.invoked, run.world⟩ := by
  unfold buildRules Build.execute
  rw [h]
  dsimp only
  cases (Build.runSteps runner root dryRun ∅ w plan.steps).result <;> rfl

theorem buildRules_of_error {failure : Failure} (h : (Graph.ofRules rules).planFor root w target = .error failure) :
    buildRules runner root rules target dryRun w = ⟨.error failure, [], w⟩ := by
  unfold buildRules
  rw [h]

theorem buildCalls_of_plan {plan : Plan} (h : (Graph.ofRules rules).planFor root w target = .ok plan) :
    buildCalls runner root rules target w = Build.calls runner root ∅ w plan.steps := by
  unfold buildCalls
  rw [h]

/-- The commands listed are those that the build records. -/
theorem map_fst_buildCalls : (buildCalls runner root rules target w).map Prod.fst =
    (buildRules runner root rules target false w).invoked := by
  unfold buildCalls
  cases hp : (Graph.ofRules rules).planFor root w target with
  | error failure => rw [buildRules_of_error hp]; rfl
  | ok plan => rw [buildRules_of_plan hp]; exact Build.map_fst_calls runner root ∅ w plan.steps

/-- A build invokes commands of the steps of its plan. -/
theorem exists_step_of_mem_buildCalls {call : Invocation × σ} (h : call ∈ buildCalls runner root rules target w) :
    ∃ plan, (Graph.ofRules rules).planFor root w target = .ok plan ∧
      ∃ t ∈ plan.steps, call.1 = t.invocation root := by
  cases hp : (Graph.ofRules rules).planFor root w target with
  | error failure => rw [buildCalls, hp] at h; cases h
  | ok plan =>
    rw [buildCalls_of_plan hp] at h
    have hinvoked : call.1 ∈ (Build.runSteps runner root false ∅ w plan.steps).invoked := by
      rw [← Build.map_fst_calls]
      exact List.mem_map_of_mem h
    exact ⟨plan, rfl, Build.exists_of_mem_invoked hinvoked⟩

/-- A build invokes commands in the build root. -/
theorem cwd_of_mem_buildCalls {call : Invocation × σ} (h : call ∈ buildCalls runner root rules target w) :
    call.1.cwd = root := by
  obtain ⟨_, _, t, _, he⟩ := exists_step_of_mem_buildCalls h
  rw [he]
  rfl

/-- What the commands of a build keep from where they start holds wherever one starts, and there the dependencies of its
target are. -/
theorem start_of_mem_buildCalls {P : σ → Prop}
    (hkeeps : ∀ call ∈ buildCalls runner root rules target w, P call.2 →
      (∀ dep ∈ call.1.deps, FileView.isThere call.2 (Path.join root dep) = true) → P (runner call.1 call.2).2)
    (h : P w) : ∀ call ∈ buildCalls runner root rules target w,
      P call.2 ∧ ∀ dep ∈ call.1.deps, FileView.isThere call.2 (Path.join root dep) = true := by
  cases hp : (Graph.ofRules rules).planFor root w target with
  | error failure => rw [buildCalls, hp]; nofun
  | ok plan =>
    rw [buildCalls_of_plan hp] at hkeeps ⊢
    exact Build.start_of_mem_calls hkeeps h

/-- A dry run invokes nothing and changes nothing. -/
theorem buildRules_dry (runner : Runner σ) (root : String) (rules : RuleSet) (target : Option Name) (w : σ) :
    (buildRules runner root rules target true w).invoked = [] ∧
      (buildRules runner root rules target true w).world = w := by
  cases hp : (Graph.ofRules rules).planFor root w target with
  | error failure => rw [buildRules_of_error hp]; exact ⟨rfl, rfl⟩
  | ok plan => rw [buildRules_of_plan hp]; exact Build.runSteps_dry runner root ∅ w plan.steps

/-- A build that ends well has gone through the steps of its plan. -/
theorem exists_of_buildRules_ok {outcome : Outcome}
    (h : (buildRules runner root rules target dryRun w).result = .ok outcome) :
    (Graph.ofRules rules).planFor root w target = .ok outcome.plan ∧
      (Build.runSteps runner root dryRun ∅ w outcome.plan.steps).result = .ok outcome.report.results ∧
      outcome.listing = listing outcome.plan.closure := by
  cases hp : (Graph.ofRules rules).planFor root w target with
  | error failure => rw [buildRules_of_error hp] at h; cases h
  | ok plan =>
    rw [buildRules_of_plan hp] at h
    dsimp only at h
    cases hr : (Build.runSteps runner root dryRun ∅ w plan.steps).result with
    | error failure => rw [hr] at h; cases h
    | ok rs => rw [hr] at h; cases h; exact ⟨rfl, hr, rfl⟩

/-- A build whose request has a plan fails exactly if a step of it does. -/
theorem buildRules_error_iff_of_plan {plan : Plan} {failure : Failure}
    (h : (Graph.ofRules rules).planFor root w target = .ok plan) :
    (buildRules runner root rules target dryRun w).result = .error failure ↔
      (Build.runSteps runner root dryRun ∅ w plan.steps).result = .error failure := by
  rw [buildRules_of_plan h]
  dsimp only
  cases (Build.runSteps runner root dryRun ∅ w plan.steps).result <;> simp [Except.map]

/-- A build that fails has no plan or has failed at a step of it. -/
theorem buildRules_error_cases {failure : Failure}
    (h : (buildRules runner root rules target dryRun w).result = .error failure) :
    (Graph.ofRules rules).planFor root w target = .error failure ∨
      ∃ plan, (Graph.ofRules rules).planFor root w target = .ok plan ∧
        (Build.runSteps runner root dryRun ∅ w plan.steps).result = .error failure := by
  cases hp : (Graph.ofRules rules).planFor root w target with
  | error failure' => rw [buildRules_of_error hp] at h; cases h; exact Or.inl rfl
  | ok plan =>
    rw [buildRules_of_plan hp] at h
    dsimp only at h
    cases hr : (Build.runSteps runner root dryRun ∅ w plan.steps).result with
    | ok rs => rw [hr] at h; cases h
    | error failure' => rw [hr] at h; cases h; exact Or.inr ⟨plan, rfl, hr⟩

end Builds

end Rebuild
