import Rebuild.Proofs.Build.History

/-!
# Incremental and clean builds

After any history, a build that ends well and in which all commands produced their targets leaves what a clean build
would: every target of the plan holds the bytes of its dependencies, and a build of the same request, made after all
outputs are removed, ends well and comes to the same bytes (`incremental_eq_clean`).
-/

namespace Rebuild

open Rehearsal (contents)

/-! ## Removing all outputs -/

/-- The files without those of the targets. -/
def Store.withoutOutputs (s : Store) (rules : RuleSet) (root : String) : Store :=
  rules.targets.foldl (fun s t => s.remove (Path.join root t.name)) s

variable {rules : RuleSet} {root : String} {s : Store} {t : Target}

theorem Store.get?_foldl_remove (path : Target → String) (ts : List Target) (s : Store) (p : String) :
    (ts.foldl (fun s t => s.remove (path t)) s).get? p =
      if ∃ t ∈ ts, Path.normal (path t) = Path.normal p then none else s.get? p := by
  induction ts generalizing s with
  | nil => simp
  | cons t ts ih =>
    rw [List.foldl_cons, ih, get?_remove]
    by_cases ht : Path.normal (path t) = Path.normal p
    · simp [ht]
    · simp [ht]

/-- No output is left. -/
theorem Store.fileOf?_withoutOutputs_of_mem (ht : t ∈ rules.targets) :
    (s.withoutOutputs rules root).fileOf? root t.name = none := by
  rw [Store.fileOf?, Store.withoutOutputs, get?_foldl_remove, if_pos ⟨t, ht, rfl⟩]

/-- All leaves are left. -/
theorem Store.fileOf?_withoutOutputs_of_leaf (hd : rules.Distinct root) {name : Name} (hn : name ∈ rules.names)
    (hleaf : rules.get? name = none) : (s.withoutOutputs rules root).fileOf? root name = s.fileOf? root name := by
  have hnone : ¬ ∃ t ∈ rules.targets, Path.normal (Path.join root t.name) = Path.normal (Path.join root name) := by
    rintro ⟨t, ht, he⟩
    rw [← hd _ (RuleSet.name_mem_names ht) _ hn he, RuleSet.get?_of_mem ht] at hleaf
    cases hleaf
  rw [Store.fileOf?, Store.withoutOutputs, get?_foldl_remove, if_neg hnone]
  rfl

namespace Build

/-! ## The clean run -/

/-- Two stores agree on the bytes of the leaves, and of the targets behind. -/
def AgreeBehind (rules : RuleSet) (root : String) (done : List Name) (s s' : Store) : Prop :=
  ∀ name ∈ rules.names, ((rules.get? name).isSome → name ∈ done) →
    s.content? (Path.join root name) = s'.content? (Path.join root name)

/-- From where the outputs to come are missing, a usual run makes every target hold again what it held. -/
theorem clean_of_holds (hd : rules.Distinct root) (final : Store) {ts : List Target} : ∀ (rebuilt : NameSet)
    {done : List Name} {s : Store}, rules.Orderly done ts → (∀ t ∈ ts, t.Holds root final) →
      AgreeBehind rules root done s final → (∀ t ∈ ts, s.fileOf? root t.name = none) →
      ∃ rs, (runSteps Rehearsal.usual.runner root false rebuilt s ts).result = .ok rs ∧
        AgreeBehind rules root ((ts.map Target.name).reverse ++ done)
          (runSteps Rehearsal.usual.runner root false rebuilt s ts).world final := by
  induction ts with
  | nil => intro rebuilt done s _ _ ha _; exact ⟨[], rfl, ha⟩
  | cons t ts ih =>
    intro rebuilt done s ho hholds ha hnone
    obtain ⟨ht, _, hdeps, hrest⟩ := id ho
    obtain ⟨⟨content, hcontent, hread⟩, hholds⟩ := List.forall_mem_cons.mp hholds
    obtain ⟨habsent, hnone⟩ := List.forall_mem_cons.mp hnone
    have hname : t.name ∈ rules.names := RuleSet.name_mem_names ht
    have hc : contents s root t.deps = .ok content := by
      rw [← hread]
      exact Rehearsal.contents_congr fun dep hdep => ha dep (RuleSet.dep_mem_names ht hdep) (hdeps dep hdep)
    have hstale : Staleness.ofStore root rebuilt s t ≠ .upToDate :=
      Staleness.ofStore_ne_upToDate.mpr (Or.inl (Or.inl habsent))
    obtain ⟨result, htarget, houtcome, hstep⟩ :=
      runStep_of_contents (Rehearsal.isProduce_usual t.name) hc hstale
    have ha' : AgreeBehind rules root (t.name :: done) (s.write (Path.join root t.name) content) final := by
      intro name hn hbehind
      show Option.map File.content ((s.write _ content).fileOf? root name) = _
      rw [hd.fileOf?_write s content hname hn]
      by_cases he : t.name = name
      · rw [if_pos he, ← he, hcontent]; rfl
      · rw [if_neg he]
        exact ha name hn fun hs => (List.mem_cons.mp (hbehind hs)).resolve_left fun h => he h.symm
    have hnone' : ∀ u ∈ ts, (s.write (Path.join root t.name) content).fileOf? root u.name = none := fun u hu => by
      have hne : t.name ≠ u.name := (ho.name_ne u hu).symm
      rw [hd.fileOf?_write s content hname (RuleSet.name_mem_names (hrest.mem_targets u hu)), if_neg hne, hnone u hu]
    obtain ⟨rs, hrun, hagree⟩ := ih (markRebuilt rebuilt result) hrest hholds ha' hnone'
    rw [runSteps_of_ok (congrArg Run.result hstep), hstep]
    dsimp only
    rw [hrun]
    refine ⟨result :: rs, rfl, ?_⟩
    rwa [List.map_cons, List.reverse_cons, List.append_assoc]

end Build

/-- A clean build of a request whose targets hold what their dependencies hold comes to the same bytes. -/
theorem exists_clean_of_holds (hd : rules.Distinct root) {target : Option Name} {plan : Plan} {s₀ : Store}
    (hp : (Graph.ofRules rules).planFor root s₀ target = .ok plan) (hholds : ∀ t ∈ plan.steps, t.Holds root s)
    (ht : t ∈ plan.steps) :
    let clean := buildRules Rehearsal.usual.runner root rules target false (s.withoutOutputs rules root)
    ∃ outcome, clean.result = .ok outcome ∧ outcome.plan = plan ∧
      clean.world.content? (Path.join root t.name) = s.content? (Path.join root t.name) := by
  intro clean
  have ho := Graph.orderly_of_planFor hp
  have hclean : clean = _ := buildRules_of_plan (Graph.planFor_eq_of_mem hp ht (s.withoutOutputs rules root))
  have hstart : Build.AgreeBehind rules root [] (s.withoutOutputs rules root) s := by
    intro name hn hbehind
    cases hg : rules.get? name with
    | some u => rw [hg] at hbehind; cases hbehind rfl
    | none => exact congrArg (Option.map File.content) (Store.fileOf?_withoutOutputs_of_leaf hd hn hg)
  have hnone : ∀ u ∈ plan.steps, (s.withoutOutputs rules root).fileOf? root u.name = none := fun u hu =>
    Store.fileOf?_withoutOutputs_of_mem (ho.mem_targets u hu)
  obtain ⟨rs, hrun, hagree⟩ := Build.clean_of_holds hd s ∅ ho hholds hstart hnone
  rw [hclean]
  dsimp only
  rw [hrun]
  refine ⟨_, rfl, rfl, hagree t.name (RuleSet.name_mem_names (ho.mem_targets t ht)) fun _ => ?_⟩
  simpa using ⟨t, ht, rfl⟩

/-- **An incremental build comes to what a clean one does.** Let different names of the rules be different files. After
any history in which no output is written by hand, let a build end well, all of whose commands produce their targets.
Then every target of its plan holds the bytes of its dependencies, one after the other, and the usual build of the same
request, made after all outputs are removed, ends well with the same plan and makes every target of it the same. -/
theorem incremental_eq_clean (root : String) (rules : RuleSet) (hd : rules.Distinct root) (actions : List Action)
    (hactions : ∀ a ∈ actions, a.Admissible rules root) (rehearsal : Rehearsal) (target : Option Name)
    (hbuild : (Action.build rehearsal target false).Admissible rules root) :
    let built := buildRules rehearsal.runner root rules target false (history rules root actions)
    let clean := buildRules Rehearsal.usual.runner root rules target false (built.world.withoutOutputs rules root)
    ∀ outcome, built.result = .ok outcome → (∀ i ∈ built.invoked, (rehearsal i.target).IsProduce) →
      ∀ t ∈ outcome.plan.steps,
        (∃ content, built.world.content? (Path.join root t.name) = some content ∧
          built.world.Joins root t.deps content) ∧
        ∃ outcome', clean.result = .ok outcome' ∧ outcome'.plan = outcome.plan ∧
          clean.world.content? (Path.join root t.name) = built.world.content? (Path.join root t.name) := by
  intro built clean outcome hok hproduce t ht
  have hs : Faithful rules root (history rules root actions) := faithful_history hd hactions
  have hfaithful : Faithful rules root built.world := hs.build hd hbuild target false
  obtain ⟨hp, hrun, _⟩ := exists_of_buildRules_ok hok
  have ho := Graph.orderly_of_planFor hp
  have hbuilt : built = _ := buildRules_of_plan hp
  have hcurrent : ∀ u ∈ outcome.plan.steps, u.Current root built.world := by
    rw [hbuilt] at hproduce ⊢
    exact (Build.advance_of_ok hd ho hs.clocked hproduce hrun).current
  have hholds : ∀ u ∈ outcome.plan.steps, u.Holds root built.world := fun u hu =>
    hfaithful.holds u (ho.mem_targets u hu) (hcurrent u hu)
  obtain ⟨content, hcontent, hread⟩ := hholds t ht
  exact ⟨⟨content, hcontent, Rehearsal.joins_of_contents hread⟩, exists_clean_of_holds hd hp hholds ht⟩

/-- A build fails at `C` after `A` has changed, and the next one makes `C` from the new `A`. -/
theorem incremental_eq_clean_chain :
    let actions : List Action := [.write "A" "old".toUTF8, .build .usual none false, .write "A" "new".toUTF8,
      .build (Rehearsal.usual.set "C" (.fail 1 "")) none false, .remove "B", .build .usual (some "C") true]
    let built := buildRules Rehearsal.usual.runner "." .chain none false (history .chain "." actions)
    let clean := buildRules Rehearsal.usual.runner "." .chain none false (built.world.withoutOutputs .chain ".")
    RuleSet.chain.Distinct "." ∧ (∀ a ∈ actions, a.Admissible .chain ".") ∧
      (Action.build .usual none false).Admissible .chain "." ∧
      (∃ outcome, built.result = .ok outcome ∧ ∃ t ∈ outcome.plan.steps, t.name = "C") ∧
      (∀ i ∈ built.invoked, (Rehearsal.usual i.target).IsProduce) ∧
      built.world.content? "./C" = some "new".toUTF8 ∧
      clean.world.content? "./C" = built.world.content? "./C" := by
  intro actions built clean
  have hplain : ∀ name, (Rehearsal.usual name).IsPlain := fun name => (Rehearsal.isProduce_usual name).isPlain
  have hfail : ∀ name, (Rehearsal.usual.set "C" (.fail 1 "") name).IsPlain := fun name => by
    unfold Rehearsal.set
    split <;> exact trivial
  have hwrite : ∀ t ∈ RuleSet.chain.targets, Path.normal "A" ≠ Path.normal (Path.join "." t.name) := by
    decide +kernel
  have hactions : ∀ a ∈ actions, a.Admissible .chain "." := by
    simp only [actions, List.forall_mem_cons]
    exact ⟨hwrite, hplain, hwrite, hfail, trivial, hplain, by simp⟩
  have hok : built.result.toOption.map (·.plan.steps.map Target.name) = some ["B", "C"] := by decide +kernel
  cases hresult : built.result with
  | error failure => rw [hresult] at hok; cases hok
  | ok outcome =>
    rw [hresult] at hok
    have hsteps : outcome.plan.steps.map Target.name = ["B", "C"] := Option.some.inj hok
    obtain ⟨t, ht, hname⟩ : ∃ t ∈ outcome.plan.steps, t.name = "C" := List.mem_map.mp (by rw [hsteps]; decide)
    have hproduce : ∀ i ∈ built.invoked, (Rehearsal.usual i.target).IsProduce := fun _ _ => Rehearsal.isProduce_usual _
    obtain ⟨_, _, _, _, hsame⟩ := incremental_eq_clean "." .chain RuleSet.chain_distinct actions hactions .usual none
      hplain outcome hresult hproduce t ht
    rw [hname] at hsame
    exact ⟨RuleSet.chain_distinct, hactions, hplain, ⟨outcome, rfl, t, ht, hname⟩, hproduce, by decide +kernel, hsame⟩

end Rebuild
