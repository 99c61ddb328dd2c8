import Rebuild.Proofs.Build.Current
import Rebuild.Proofs.PlanOrder
import Rebuild.Proofs.Rehearsal

/-!
# Runs of producing commands

A step whose command produces its target finds it current, or writes what its dependencies hold (`producing_step`).
After a run of such steps that ends well every target of the run is current, what was built is later than all that was
there before, and no other file has changed (`advance_of_ok`).
-/

namespace Rebuild

namespace Build

open Rehearsal (contents)

variable {r : Rehearsal} {rules : RuleSet} {root : String} {rebuilt : NameSet} {s : Store} {t : Target}

/-! ## One step -/

/-- A step that ends well and invokes producing commands only finds its target current or writes it. -/
theorem producing_step {result : StepResult}
    (hp : ∀ i ∈ (runStep r.runner root false rebuilt s t).invoked, (r i.target).IsProduce)
    (h : (runStep r.runner root false rebuilt s t).result = .ok result) :
    (t.Current root s ∧ Staleness.ofStore root rebuilt s t = .upToDate ∧ result.outcome = .upToDate ∧
      runStep r.runner root false rebuilt s t = ⟨.ok result, [], s⟩) ∨
    ∃ content, contents s root t.deps = .ok content ∧ Staleness.ofStore root rebuilt s t ≠ .upToDate ∧
      result.outcome = .built ∧ runStep r.runner root false rebuilt s t =
        ⟨.ok result, [t.invocation root], s.write (Path.join root t.name) content⟩ := by
  have hcase := stepCase r.runner root false rebuilt s t
  generalize runStep r.runner root false rebuilt s t = step at h hp hcase ⊢
  cases hcase with
  | missing => cases h
  | planned _ _ hfalse => cases hfalse
  | current hdeps hstale =>
    cases h
    have hthere : ∀ dep ∈ t.deps, (s.fileOf? root dep).isSome := fun dep hdep =>
      (missingSource?_eq_none.mp hdeps dep hdep).resolve_right fun hfalse => Bool.false_ne_true hfalse.1
    exact Or.inl ⟨Staleness.current_of_ofStore hthere hstale, hstale, rfl, rfl⟩
  | failed => cases h
  | built _ hstale _ hend =>
    cases h
    obtain ⟨content, hcontent, hworld⟩ := Rehearsal.run_produce (hp _ List.mem_cons_self) hend
    have hworld : (r.runner (t.invocation root) s).2 = s.write (Path.join root t.name) content := hworld
    rw [hworld]
    exact Or.inr ⟨content, hcontent, hstale, rfl, rfl⟩

/-- Where its dependencies can be read, a stale target with a producing command is built. -/
theorem runStep_of_contents (hb : (r t.name).IsProduce) {content : ByteArray}
    (hc : contents s root t.deps = .ok content) (hstale : Staleness.ofStore root rebuilt s t ≠ .upToDate) :
    ∃ result : StepResult, result.target = t.name ∧ result.outcome = .built ∧
      runStep r.runner root false rebuilt s t =
        ⟨.ok result, [t.invocation root], s.write (Path.join root t.name) content⟩ := by
  have hdeps : missingSource? root false rebuilt s t = none :=
    missingSource?_eq_none.mpr fun dep hdep => Or.inl (Rehearsal.isSome_of_contents hc dep hdep)
  obtain ⟨output, hstatus, hrun⟩ := Rehearsal.runner_of_contents (i := t.invocation root) hb hc
  have hcase := stepCase r.runner root false rebuilt s t
  generalize runStep r.runner root false rebuilt s t = step at hcase ⊢
  cases hcase with
  | missing hm => rw [hdeps] at hm; cases hm
  | current _ hs => exact absurd hs hstale
  | planned _ _ hfalse => cases hfalse
  | failed _ _ _ _ hend =>
    -- the command ends well, and its target is there
    have hthere : FileView.isThere (s.write (Path.join root t.name) content) (Path.join root t.name) = true := by
      rw [StoreView.isThere_eq, StoreView.store_self, Store.get?_write, if_pos rfl]; rfl
    rw [hrun, resultOfCommand, hstatus] at hend
    simp [Target.invocation, ExitStatus.isSuccess, hthere] at hend
  | built => rw [hrun]; exact ⟨_, rfl, rfl, rfl⟩

/-! ## All steps -/

/-- What a producing run of the steps `ts`, with the results `rs`, makes of a store. -/
structure Advance (rules : RuleSet) (root : String) (ts : List Target) (rs : List StepResult) (s s' : Store) :
    Prop where
  clocked : s'.Clocked
  clock : s.clock ≤ s'.clock
  same : ∀ name ∈ rules.names, name ∉ ts.map Target.name → s'.fileOf? root name = s.fileOf? root name
  current : ∀ t ∈ ts, t.Current root s'
  later : ∀ result ∈ rs, result.outcome ≠ .upToDate →
    ∃ file, s'.fileOf? root result.target = some file ∧ s.clock < file.modified

theorem advance_nil {s : Store} (hs : s.Clocked) : Advance rules root [] [] s s where
  clocked := hs
  clock := Nat.le_refl _
  same := fun _ _ _ => rfl
  current := by simp
  later := by simp

/-- Writing a target after its dependencies makes it current. -/
theorem current_write (hd : rules.Distinct root) (hs : s.Clocked) (ht : t ∈ rules.targets) (hself : t.name ∉ t.deps)
    {content : ByteArray} (hc : contents s root t.deps = .ok content) :
    t.Current root (s.write (Path.join root t.name) content) := by
  have hname : t.name ∈ rules.names := RuleSet.name_mem_names ht
  refine ⟨⟨content, s.clock + 1⟩, by rw [hd.fileOf?_write s content hname hname, if_pos rfl], fun dep hdep => ?_⟩
  obtain ⟨file, hfile⟩ := Option.isSome_iff_exists.mp (Rehearsal.isSome_of_contents hc dep hdep)
  have hne : t.name ≠ dep := fun he => hself (he ▸ hdep)
  refine ⟨file, ?_, Nat.le_succ_of_le (hs _ file hfile)⟩
  rw [hd.fileOf?_write s content hname (RuleSet.dep_mem_names ht hdep), if_neg hne, hfile]

theorem advance_step (hd : rules.Distinct root) (hs : s.Clocked) (ht : t ∈ rules.targets) (hself : t.name ∉ t.deps)
    (hp : ∀ i ∈ (runStep r.runner root false rebuilt s t).invoked, (r i.target).IsProduce) {result : StepResult}
    (h : (runStep r.runner root false rebuilt s t).result = .ok result) :
    Advance rules root [t] [result] s (runStep r.runner root false rebuilt s t).world := by
  have htarget : result.target = t.name := target_of_runStep h
  rcases producing_step hp h with ⟨hcurrent, _, houtcome, hstep⟩ | ⟨content, hc, _, _, hstep⟩
  · rw [hstep]
    exact {
      clocked := hs
      clock := Nat.le_refl _
      same := fun _ _ _ => rfl
      current := by simpa using hcurrent
      later := by simp [houtcome] }
  · have hname : t.name ∈ rules.names := RuleSet.name_mem_names ht
    rw [hstep]
    exact {
      clocked := hs.write _ content
      clock := Nat.le_succ _
      same := fun name hn hne => by
        rw [hd.fileOf?_write s content hname hn, if_neg fun he => hne (by simp [he])]
      current := by simpa using current_write hd hs ht hself hc
      later := by
        intro result' hr _
        rw [List.mem_singleton.mp hr, htarget, hd.fileOf?_write s content hname hname, if_pos rfl]
        exact ⟨_, rfl, Nat.lt_succ_self _⟩ }

/-- Later steps leave the first one current. -/
theorem Advance.cons {ts : List Target} {result : StepResult} {rs : List StepResult} {s₁ s₂ : Store}
    (h₁ : Advance rules root [t] [result] s s₁) (h₂ : Advance rules root ts rs s₁ s₂) (ht : t ∈ rules.targets)
    (htarget : result.target = t.name) (hname : t.name ∉ ts.map Target.name)
    (hdeps : ∀ dep ∈ t.deps, dep ∉ ts.map Target.name) : Advance rules root (t :: ts) (result :: rs) s s₂ where
  clocked := h₂.clocked
  clock := Nat.le_trans h₁.clock h₂.clock
  same := by
    intro name hn hnot
    rw [List.map_cons, List.mem_cons, not_or] at hnot
    rw [h₂.same name hn hnot.2, h₁.same name hn (by simpa using hnot.1)]
  current := by
    refine List.forall_mem_cons.mpr ⟨?_, h₂.current⟩
    exact (h₁.current t List.mem_cons_self).congr (h₂.same _ (RuleSet.name_mem_names ht) hname)
      fun dep hdep => h₂.same dep (RuleSet.dep_mem_names ht hdep) (hdeps dep hdep)
  later := by
    refine List.forall_mem_cons.mpr ⟨fun hr => ?_, fun result' hr houtcome => ?_⟩
    · obtain ⟨file, hfile, hlt⟩ := h₁.later result List.mem_cons_self hr
      refine ⟨file, ?_, hlt⟩
      rw [htarget] at hfile ⊢
      rw [h₂.same _ (RuleSet.name_mem_names ht) hname, hfile]
    · obtain ⟨file, hfile, hlt⟩ := h₂.later result' hr houtcome
      exact ⟨file, hfile, Nat.lt_of_le_of_lt h₁.clock hlt⟩

/-- A producing run that ends well leaves all its targets current. -/
theorem advance_of_ok (hd : rules.Distinct root) {ts : List Target} : ∀ {done : List Name} {rebuilt : NameSet}
    {s : Store} {rs : List StepResult}, rules.Orderly done ts → s.Clocked →
      (∀ i ∈ (runSteps r.runner root false rebuilt s ts).invoked, (r i.target).IsProduce) →
      (runSteps r.runner root false rebuilt s ts).result = .ok rs →
      Advance rules root ts rs s (runSteps r.runner root false rebuilt s ts).world := by
  induction ts with
  | nil => intro done rebuilt s rs _ hs _ h; cases h; exact advance_nil hs
  | cons t ts ih =>
    intro done rebuilt s rs ho hs hp h
    obtain ⟨result, rest, hstep, rfl, hrest⟩ := exists_of_runSteps_ok h
    rw [runSteps_of_ok hstep] at hp ⊢
    dsimp only at hp ⊢
    have h₁ := advance_step hd hs ho.1 ho.name_not_mem_deps (fun i hi => hp i (List.mem_append_left _ hi)) hstep
    have h₂ := ih ho.2.2.2 h₁.clocked (fun i hi => hp i (List.mem_append_right _ hi)) hrest
    refine h₁.cons h₂ ho.1 (target_of_runStep hstep) ?_ fun dep hdep => ?_
    · exact ho.2.2.2.not_mem_names fun _ => List.mem_cons_self
    · exact ho.2.2.2.not_mem_names fun hs => List.mem_cons_of_mem _ (ho.2.2.1 dep hdep hs)

end Build

end Rebuild
