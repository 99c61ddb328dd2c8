import Rebuild.Proofs.Build.Producing

/-!
# Going on after a failed build

A build that stops at a command that has written nothing loses its marks, the names rebuilt so far. The files make up
for them (`Recovered`): what was rebuilt is later than the outputs that are still to come. So the same request, made
again, does what the uninterrupted build would have done from there on (`resume_of_ok`, `resumed_eq_uninterrupted`).
-/

namespace Rebuild

/-- Whether a command, of a target with this file, fails without having written anything. -/
def Behaviour.BreaksOff (output : Option File) : Behaviour → Prop
  | .fail code _ => code ≠ 0
  | .refuse => True
  | .forget => output = none
  | _ => False

namespace Build

open Rehearsal (contents)

variable {r r' : Rehearsal} {rules : RuleSet} {root : String} {dryRun : Bool} {rebuilt : NameSet} {s : Store}
  {t : Target}

/-! ## Runs with other commands -/

theorem runStep_congr (h : r t.name = r' t.name) :
    runStep r.runner root dryRun rebuilt s t = runStep r'.runner root dryRun rebuilt s t := by
  have hrun : r.runner (t.invocation root) = r'.runner (t.invocation root) := by
    funext s
    show Rehearsal.run (r t.name) _ s = Rehearsal.run (r' t.name) _ s
    rw [h]
  simp only [runStep, hrun]

/-- Steps whose commands behave alike go alike. -/
theorem runSteps_congr {ts : List Target} (h : ∀ t ∈ ts, r t.name = r' t.name) :
    runSteps r.runner root dryRun rebuilt s ts = runSteps r'.runner root dryRun rebuilt s ts := by
  induction ts generalizing rebuilt s with
  | nil => rfl
  | cons t ts ih =>
    have hstep : runStep r.runner root dryRun rebuilt s t = runStep r'.runner root dryRun rebuilt s t :=
      runStep_congr (h t List.mem_cons_self)
    have hrest : ∀ rebuilt s, runSteps r.runner root dryRun rebuilt s ts =
        runSteps r'.runner root dryRun rebuilt s ts := fun _ _ => ih fun u hu => h u (List.mem_cons_of_mem _ hu)
    simp only [runSteps, hstep, hrest]

/-- The command of a target is invoked in the step of the target. -/
theorem invoked_ne_nil {ts : List Target}
    (h : ∃ i ∈ (runSteps r.runner root dryRun rebuilt s (t :: ts)).invoked, i.target = t.name)
    (hts : ∀ u ∈ ts, u.name ≠ t.name) : (runStep r.runner root dryRun rebuilt s t).invoked ≠ [] := by
  intro hnil
  obtain ⟨i, hi, he⟩ := h
  cases hstep : (runStep r.runner root dryRun rebuilt s t).result with
  | error failure => rw [runSteps_of_error hstep, hnil] at hi; cases hi
  | ok result =>
    rw [runSteps_of_ok hstep] at hi
    dsimp only at hi
    rw [hnil] at hi
    obtain ⟨u, hu, rfl⟩ := exists_of_mem_invoked hi
    exact hts u hu he

theorem run_of_breaksOff {b : Behaviour} {output : Option File} (hb : b.BreaksOff output) (i : Invocation) (s : Store) :
    (Rehearsal.run b i s).2 = s := by
  cases b with
  | produce => cases hb
  | script => cases hb
  | _ => rfl

/-- A step whose command breaks off fails, and changes nothing. -/
theorem runStep_of_breaksOff (hb : (r t.name).BreaksOff (s.fileOf? root t.name))
    (hinvoked : (runStep r.runner root false rebuilt s t).invoked ≠ []) :
    ∃ failure, failure.culprit? = some t.name ∧
      runStep r.runner root false rebuilt s t = ⟨.error failure, [t.invocation root], s⟩ := by
  have hworld : (r.runner (t.invocation root) s).2 = s := run_of_breaksOff hb (t.invocation root) s
  have hcase := stepCase r.runner root false rebuilt s t
  generalize runStep r.runner root false rebuilt s t = step at hinvoked hcase ⊢
  cases hcase with
  | missing => exact absurd rfl hinvoked
  | current => exact absurd rfl hinvoked
  | planned => exact absurd rfl hinvoked
  | failed _ _ _ hblame => exact ⟨_, hblame, by rw [hworld]⟩
  | built _ _ _ hend hstatus hmade =>
    have hrun : (Rehearsal.run (r t.name) (t.invocation root) s).1 = .ok _ := hend
    rw [hworld, StoreView.store_self] at hmade
    cases hbehaviour : r t.name with
    | produce => rw [hbehaviour] at hb; cases hb
    | script => rw [hbehaviour] at hb; cases hb
    | refuse => rw [hbehaviour] at hrun; cases hrun
    | fail code stderr =>
      rw [hbehaviour] at hb hrun
      cases hrun
      exact absurd (by simpa [ExitStatus.isSuccess] using hstatus) (show code ≠ 0 from hb)
    | forget =>
      rw [hbehaviour] at hb
      have habsent : s.fileOf? root t.name = none := hb
      rw [habsent] at hmade
      cases hmade

/-! ## Marks that are lost -/

/-- What is stale on its own stays so when another target is written. -/
theorem staleAlone_write (hd : rules.Distinct root) (hs : s.Clocked) (ht : t ∈ rules.targets) {name : Name}
    (hname : name ∈ rules.names) (hne : name ≠ t.name) (content : ByteArray) (h : t.StaleAlone root s) :
    t.StaleAlone root (s.write (Path.join root name) content) := by
  have hsame : (s.write (Path.join root name) content).fileOf? root t.name = s.fileOf? root t.name := by
    rw [hd.fileOf?_write s content hname (RuleSet.name_mem_names ht), if_neg hne]
  unfold Target.StaleAlone
  rw [hsame]
  rcases h with h | ⟨output, ho, dep, hdep, file, hfile, hlt⟩
  · exact Or.inl h
  · refine Or.inr ⟨output, ho, dep, hdep, ?_⟩
    rw [hd.fileOf?_write s content hname (RuleSet.dep_mem_names ht hdep)]
    by_cases he : name = dep
    · rw [if_pos he]
      exact ⟨_, rfl, Nat.lt_succ_of_le (hs _ output ho)⟩
    · rw [if_neg he]
      exact ⟨file, hfile, hlt⟩

/-- A run with the marks `marked` misses none of the marks `all` at the targets `ts`: where it does not have a mark on a
dependency, the files show that the target is stale. -/
structure Recovered (root : String) (all marked : NameSet) (s : Store) (ts : List Target) : Prop where
  sub : ∀ name ∈ marked, name ∈ all
  shown : ∀ t ∈ ts, ∀ dep ∈ t.deps, dep ∈ all → dep ∈ marked ∨ t.StaleAlone root s

namespace Recovered

variable {all marked : NameSet} {ts : List Target}

/-- Both runs find the same targets stale. -/
theorem ofStore_ne_upToDate (h : Recovered root all marked s (t :: ts))
    (hstale : Staleness.ofStore root all s t ≠ .upToDate) : Staleness.ofStore root marked s t ≠ .upToDate := by
  rw [Staleness.ofStore_ne_upToDate] at hstale ⊢
  rcases hstale with halone | ⟨dep, hdep, hm⟩
  · exact Or.inl halone
  · rcases h.shown t List.mem_cons_self dep hdep hm with hm | halone
    · exact Or.inr ⟨dep, hdep, hm⟩
    · exact Or.inl halone

theorem tail (h : Recovered root all marked s (t :: ts)) : Recovered root all marked s ts :=
  ⟨h.sub, fun u hu => h.shown u (List.mem_cons_of_mem _ hu)⟩

/-- A target that both runs build is marked by both. -/
theorem write (h : Recovered root all marked s ts) (hd : rules.Distinct root) (hs : s.Clocked) {name : Name}
    (hname : name ∈ rules.names) (hts : ∀ t ∈ ts, t ∈ rules.targets ∧ name ≠ t.name) (content : ByteArray) :
    Recovered root (all.insert name) (marked.insert name) (s.write (Path.join root name) content) ts where
  sub := by
    intro name' hm
    rw [NameSet.mem_insert] at hm ⊢
    exact hm.imp_right (h.sub name')
  shown := by
    intro t ht dep hdep hm
    obtain ⟨htarget, hne⟩ := hts t ht
    rw [NameSet.mem_insert] at hm ⊢
    rcases hm with he | hm
    · exact Or.inl (Or.inl he)
    · rcases h.shown t ht dep hdep hm with hm | halone
      · exact Or.inl (Or.inr hm)
      · exact Or.inr (staleAlone_write hd hs htarget hname hne content halone)

end Recovered

/-- A run that misses no mark does what the run with all marks does. -/
theorem resume_of_ok (hd : rules.Distinct root) {ts : List Target} : ∀ {done : List Name} {all marked : NameSet}
    {s : Store} {rs : List StepResult}, rules.Orderly done ts → s.Clocked → Recovered root all marked s ts →
      (∀ i ∈ (runSteps r.runner root false all s ts).invoked, (r i.target).IsProduce) →
      (runSteps r.runner root false all s ts).result = .ok rs →
      ∃ rs', runSteps r.runner root false marked s ts =
        { runSteps r.runner root false all s ts with result := .ok rs' } := by
  induction ts with
  | nil => intro done all marked s rs _ _ _ _ _; exact ⟨[], rfl⟩
  | cons t ts ih =>
    intro done all marked s rs ho hs hm hp h
    obtain ⟨result, rest, hstep, rfl, hrest⟩ := exists_of_runSteps_ok h
    rw [runSteps_of_ok hstep] at hp ⊢
    dsimp only at hp ⊢
    have hpstep : ∀ i ∈ (runStep r.runner root false all s t).invoked, (r i.target).IsProduce := fun i hi =>
      hp i (List.mem_append_left _ hi)
    rcases producing_step hpstep hstep with ⟨hcurrent, hstale, houtcome, he⟩ | ⟨content, hc, hstale, houtcome, he⟩
    · -- neither run invokes anything
      have hnone : ∀ dep ∈ t.deps, dep ∉ marked := fun dep hdep hmem => by
        obtain ⟨_, _, hall⟩ := Staleness.ofStore_eq_upToDate.mp hstale
        exact (hall dep hdep).1 (hm.sub dep hmem)
      have hmark : markRebuilt all result = all := if_pos houtcome
      rw [he, hmark] at hrest hp
      obtain ⟨rs', hrun⟩ := ih ho.2.2.2 hs hm.tail (fun i hi => hp i (List.mem_append_right _ hi)) hrest
      have he' : runStep r.runner root false marked s t = ⟨.ok (currentResult t), [], s⟩ :=
        runStep_of_current hcurrent hnone
      refine ⟨currentResult t :: rs', ?_⟩
      rw [runSteps_of_ok (congrArg Run.result he'), he', he, hmark]
      dsimp only
      rw [show markRebuilt marked (currentResult t) = marked from rfl, hrun]
      rfl
    · -- both runs write the target
      have htarget : result.target = t.name := target_of_runStep hstep
      have hb : (r t.name).IsProduce := hpstep (t.invocation root) (by rw [he]; exact List.mem_cons_self)
      obtain ⟨result', htarget', houtcome', he'⟩ := runStep_of_contents hb hc (hm.ofStore_ne_upToDate hstale)
      have hmark : markRebuilt all result = all.insert t.name := by rw [markRebuilt_of_built houtcome, htarget]
      have hmark' : markRebuilt marked result' = marked.insert t.name := by
        rw [markRebuilt_of_built houtcome', htarget']
      rw [he, hmark] at hrest hp
      have hlater : ∀ u ∈ ts, u ∈ rules.targets ∧ t.name ≠ u.name := fun u hu =>
        ⟨ho.2.2.2.mem_targets u hu, (ho.name_ne u hu).symm⟩
      obtain ⟨rs', hrun⟩ := ih ho.2.2.2 (hs.write _ content)
        (hm.tail.write hd hs (RuleSet.name_mem_names ho.1) hlater content)
        (fun i hi => hp i (List.mem_append_right _ hi)) hrest
      refine ⟨result' :: rs', ?_⟩
      rw [runSteps_of_ok (congrArg Run.result he'), he', he, hmark, hmark']
      dsimp only
      rw [hrun]
      rfl

/-- Where a producing run has led, the files show all its marks. -/
theorem recovered_of_advance {before ts : List Target} {rs : List StepResult} {s' : Store} (hs : s.Clocked)
    (h : Advance rules root before rs s s')
    (hts : ∀ t ∈ ts, t ∈ rules.targets ∧ t.name ∉ before.map Target.name) : Recovered root (marks ∅ rs) ∅ s' ts where
  sub := by simp
  shown := by
    intro t ht dep hdep hm
    obtain ⟨htarget, hnot⟩ := hts t ht
    obtain ⟨result, hr, houtcome, he⟩ := (mem_marks.mp hm).resolve_left (by simp)
    obtain ⟨file, hfile, hlt⟩ := h.later result hr houtcome
    have hsame : s'.fileOf? root t.name = s.fileOf? root t.name := h.same _ (RuleSet.name_mem_names htarget) hnot
    refine Or.inr ?_
    cases ho : s.fileOf? root t.name with
    | none => exact Or.inl (hsame.trans ho)
    | some output =>
      exact Or.inr ⟨output, hsame.trans ho, dep, hdep, file, he ▸ hfile, Nat.lt_of_le_of_lt (hs _ output ho) hlt⟩

/-! ## The failed run and the run after it -/

section Interrupted

variable {before after : List Target} {b : Behaviour} {rs : List StepResult}

/-- A run in which one command breaks off goes up to this command as the usual run does, and ends there. -/
theorem runSteps_of_breaksOff (hd : rules.Distinct root) (ho : rules.Orderly [] (before ++ t :: after))
    (hs : s.Clocked) (hb : b.BreaksOff (s.fileOf? root t.name))
    (hbefore : (runSteps Rehearsal.usual.runner root false ∅ s before).result = .ok rs)
    (hinvoked : ∃ i ∈ (runSteps (Rehearsal.usual.set t.name b).runner root false ∅ s (before ++ t :: after)).invoked,
      i.target = t.name) :
    ∃ failure, failure.culprit? = some t.name ∧
      runSteps (Rehearsal.usual.set t.name b).runner root false ∅ s (before ++ t :: after) =
        ⟨.error failure, (runSteps Rehearsal.usual.runner root false ∅ s before).invoked ++ [t.invocation root],
          (runSteps Rehearsal.usual.runner root false ∅ s before).world⟩ := by
  obtain ⟨hob, hot⟩ := RuleSet.orderly_append.mp ho
  have hnot : t.name ∉ before.map Target.name := fun hm => hot.2.1 (by simpa using hm)
  have halike : ∀ u ∈ before, (Rehearsal.usual.set t.name b) u.name = Rehearsal.usual u.name := fun u hu =>
    if_neg fun he => hnot (List.mem_map.mpr ⟨u, hu, he⟩)
  have hrun : runSteps (Rehearsal.usual.set t.name b).runner root false ∅ s before =
      runSteps Rehearsal.usual.runner root false ∅ s before := runSteps_congr halike
  have hfirst := hbefore
  rw [← hrun] at hfirst
  rw [runSteps_append_of_ok hfirst, hrun] at hinvoked ⊢
  dsimp only at hinvoked ⊢
  have hadv := advance_of_ok hd hob hs (fun _ _ => Rehearsal.isProduce_usual _) hbefore
  generalize hw : (runSteps Rehearsal.usual.runner root false ∅ s before).world = s' at hinvoked hadv ⊢
  have hb' : (Rehearsal.usual.set t.name b t.name).BreaksOff (s'.fileOf? root t.name) := by
    rw [hadv.same _ (RuleSet.name_mem_names hot.1) hnot, Rehearsal.set, if_pos rfl]
    exact hb
  have hown : ∃ i ∈ (runSteps (Rehearsal.usual.set t.name b).runner root false (marks ∅ rs) s' (t :: after)).invoked,
      i.target = t.name := by
    obtain ⟨i, hi, he⟩ := hinvoked
    rcases List.mem_append.mp hi with hi | hi
    · obtain ⟨u, hu, rfl⟩ := exists_of_mem_invoked hi
      exact absurd (List.mem_map.mpr ⟨u, hu, he⟩) hnot
    · exact ⟨i, hi, he⟩
  obtain ⟨failure, hblame, hstep⟩ := runStep_of_breaksOff hb' (invoked_ne_nil hown hot.name_ne)
  refine ⟨failure, hblame, ?_⟩
  rw [runSteps_of_error (congrArg Run.result hstep), hstep]
  rfl

/-- The usual run of the same steps after a run that broke off does what was left. -/
theorem resume_of_breaksOff (hd : rules.Distinct root) (ho : rules.Orderly [] (before ++ t :: after))
    (hs : s.Clocked) (hb : b.BreaksOff (s.fileOf? root t.name))
    (hwhole : (runSteps Rehearsal.usual.runner root false ∅ s (before ++ t :: after)).result = .ok rs)
    (hinvoked : ∃ i ∈ (runSteps (Rehearsal.usual.set t.name b).runner root false ∅ s (before ++ t :: after)).invoked,
      i.target = t.name) :
    let whole := runSteps Rehearsal.usual.runner root false ∅ s (before ++ t :: after)
    let first := runSteps (Rehearsal.usual.set t.name b).runner root false ∅ s (before ++ t :: after)
    let second := runSteps Rehearsal.usual.runner root false ∅ first.world (before ++ t :: after)
    (∃ failure, failure.culprit? = some t.name ∧ first.result = .error failure) ∧
    (∃ rs', second.result = .ok rs') ∧ second.world = whole.world ∧
    ∃ done, first.invoked = done ++ [t.invocation root] ∧ done ++ second.invoked = whole.invoked := by
  intro whole first second
  obtain ⟨rs₁, rs₂, hbefore, rfl, hrest⟩ := exists_of_runSteps_append_ok hwhole
  obtain ⟨hob, hot⟩ := RuleSet.orderly_append.mp ho
  obtain ⟨failure, hblame, hfirst⟩ := runSteps_of_breaksOff hd ho hs hb hbefore hinvoked
  have hadv := advance_of_ok hd hob hs (fun _ _ => Rehearsal.isProduce_usual _) hbefore
  have hfirst : first = _ := hfirst
  have hwhole : whole = _ := runSteps_append_of_ok hbefore
  have hlost : Recovered root (marks ∅ rs₁) ∅ (runSteps Rehearsal.usual.runner root false ∅ s before).world
      (t :: after) := recovered_of_advance hs hadv fun u hu =>
    ⟨hot.mem_targets u hu, fun hm => hot.not_mem_done u hu (by simpa using hm)⟩
  obtain ⟨rs', hrun⟩ := resume_of_ok hd hot hadv.clocked hlost (fun _ _ => Rehearsal.isProduce_usual _) hrest
  have hcurrent : runSteps Rehearsal.usual.runner root false ∅
      (runSteps Rehearsal.usual.runner root false ∅ s before).world before =
        ⟨.ok (before.map currentResult), [], (runSteps Rehearsal.usual.runner root false ∅ s before).world⟩ :=
    runSteps_of_current hadv.current
  have hsecond : second = runSteps Rehearsal.usual.runner root false ∅
      (runSteps Rehearsal.usual.runner root false ∅ s before).world (before ++ t :: after) := by
    show runSteps _ _ _ _ first.world _ = _
    rw [hfirst]
  rw [runSteps_append_of_ok (congrArg Run.result hcurrent), hcurrent, marks_current] at hsecond
  dsimp only at hsecond hwhole
  rw [hrun] at hsecond
  rw [hfirst, hsecond, hwhole]
  exact ⟨⟨failure, hblame, rfl⟩, ⟨_, rfl⟩, rfl, _, rfl, rfl⟩

end Interrupted

end Build

/-- **Going on after a failure.** Let different names of the rules be different files, and let the usual build of a
request end well on the files that some edits lead to. If instead one command breaks off without having written
anything, and the request is then made again, with the usual commands, then

* the first build fails, and this command is to blame;
* the second ends well, and leaves the files, their times and the clock as the uninterrupted build does;
* the commands before the failed one, and then those of the second build, are those of the uninterrupted build. -/
theorem resumed_eq_uninterrupted (root : String) (rules : RuleSet) (target : Option Name) (edits : List Store.Edit)
    (name : Name) (b : Behaviour) (hd : rules.Distinct root) :
    let s := Store.empty.applyAll edits
    let whole := buildRules Rehearsal.usual.runner root rules target false s
    let first := buildRules (Rehearsal.usual.set name b).runner root rules target false s
    let second := buildRules Rehearsal.usual.runner root rules target false first.world
    (∃ outcome, whole.result = .ok outcome) → b.BreaksOff (s.fileOf? root name) →
      (∃ i ∈ first.invoked, i.target = name) →
      (∃ failure, failure.culprit? = some name ∧ first.result = .error failure) ∧
      (∃ outcome, second.result = .ok outcome) ∧ second.world = whole.world ∧
      ∃ done last, first.invoked = done ++ [last] ∧ last.target = name ∧ done ++ second.invoked = whole.invoked := by
  intro s whole first second ⟨outcome, hok⟩ hb hinvoked
  obtain ⟨hp, hrun, _⟩ := exists_of_buildRules_ok hok
  have hwhole : whole = _ := buildRules_of_plan hp
  have hfirst : first = _ := buildRules_of_plan hp
  rw [hfirst] at hinvoked
  obtain ⟨i, hi, hname⟩ := hinvoked
  obtain ⟨t, ht, rfl⟩ := Build.exists_of_mem_invoked hi
  obtain rfl : t.name = name := hname
  have hsecond : second = _ := buildRules_of_plan (Graph.planFor_eq_of_mem hp ht first.world)
  have ho := Graph.orderly_of_planFor hp
  obtain ⟨before, after, hsteps⟩ := List.append_of_mem ht
  rw [hsteps] at ho hrun hi
  obtain ⟨⟨failure, hblame, hfails⟩, ⟨rs, hends⟩, hworld, done, hdone, hcalls⟩ :=
    Build.resume_of_breaksOff hd ho (Store.clocked_applyAll edits) hb hrun ⟨_, hi, rfl⟩
  rw [← hsteps] at hfails hends hworld hdone hcalls
  rw [hsecond, hwhole, hfirst]
  dsimp only
  rw [hfails, hends]
  exact ⟨⟨failure, hblame, rfl⟩, ⟨_, rfl⟩, hworld, done, t.invocation root, hdone, rfl, hcalls⟩

/-- With `A` newer than `B`, and `B` than `C`, a build stops at `C`, whose command does not start; the next one makes
`C` from the new `B`. -/
theorem resumed_eq_uninterrupted_chain :
    let s := Store.empty.applyAll [.write "C" "c".toUTF8, .write "B" "b".toUTF8, .write "A" "a".toUTF8]
    let whole := buildRules Rehearsal.usual.runner "." .chain none false s
    let first := buildRules (Rehearsal.usual.set "C" .refuse).runner "." .chain none false s
    let second := buildRules Rehearsal.usual.runner "." .chain none false first.world
    RuleSet.chain.Distinct "." ∧ (∃ outcome, whole.result = .ok outcome) ∧
      Behaviour.refuse.BreaksOff (s.fileOf? "." "C") ∧ (∃ i ∈ first.invoked, i.target = "C") ∧
      whole.invoked.map Invocation.target = ["B", "C"] ∧ second.invoked.map Invocation.target = ["C"] ∧
      second.world = whole.world := by
  intro s whole first second
  have hok : whole.result.toOption.isSome = true := by decide +kernel
  have hfirst : first.invoked.map Invocation.target = ["B", "C"] := by decide +kernel
  have hinvoked : ∃ i ∈ first.invoked, i.target = "C" := List.mem_map.mp (by rw [hfirst]; decide)
  have hwhole : ∃ outcome, whole.result = .ok outcome := by
    cases h : whole.result with
    | error failure => rw [h] at hok; cases hok
    | ok outcome => exact ⟨outcome, rfl⟩
  obtain ⟨_, _, hworld, _⟩ :=
    resumed_eq_uninterrupted "." .chain none _ "C" .refuse RuleSet.chain_distinct hwhole trivial hinvoked
  exact ⟨RuleSet.chain_distinct, hwhole, trivial, hinvoked, by decide +kernel, by decide +kernel, hworld⟩

end Rebuild
