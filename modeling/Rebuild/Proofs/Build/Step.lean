import Rebuild.Proofs.Build.Exit
import Rebuild.Proofs.Files
import Rebuild.Proofs.Graph.Visit

/-!
# One step in a world with a store

In a world with a store the decision on a target is a function of the store alone (`Staleness.ofStore`) and never fails.
So the exits of a step are five ways to go, which `Build.StepCase` lists by what the store says.
-/

namespace Rebuild

/-- The target whose command is to blame for a failure. -/
def Failure.culprit? : Failure → Option Name
  | .buildFailed target _ => some target
  | .outputNotProduced target => some target
  | _ => none

/-- Whether the file of a name is later than a time. -/
def Store.isNewer (s : Store) (root : String) (time : Time) (name : Name) : Bool :=
  match s.fileOf? root name with
  | some file => time < file.modified
  | none => false

theorem Store.isNewer_iff {s : Store} {root : String} {time : Time} {name : Name} :
    s.isNewer root time name = true ↔ ∃ file, s.fileOf? root name = some file ∧ time < file.modified := by
  unfold isNewer
  cases s.fileOf? root name <;> simp

namespace Staleness

/-- The decision on a target by the files of a store. -/
def ofStore (root : String) (rebuilt : NameSet) (s : Store) (t : Target) : Staleness :=
  match s.fileOf? root t.name with
  | none => .outputMissing
  | some output =>
    match t.deps.find? rebuilt.contains with
    | some dep => .dependencyRebuilt dep
    | none =>
      match t.deps.find? (s.isNewer root output.modified) with
      | some dep => .dependencyNewer dep
      | none => .upToDate

variable {σ : Type u} [StoreView σ] {root : String} {rebuilt : NameSet}

theorem firstNewer?_eq (w : σ) (time : Time) (deps : List Name) :
    firstNewer? root w time deps = .ok (deps.find? ((StoreView.store w).isNewer root time)) := by
  induction deps with
  | nil => rfl
  | cons dep deps ih =>
    unfold firstNewer?
    rw [StoreView.modified_eq, List.find?_cons, ih]
    unfold Store.isNewer Store.fileOf? Store.modified?
    cases (StoreView.store w).get? (Path.join root dep) with
    | none => rfl
    | some file =>
      dsimp only [Option.map_some]
      by_cases h : time < file.modified <;> simp [h]

/-- In a world with a store a decision never fails. -/
theorem decide_eq (w : σ) (t : Target) :
    Staleness.decide root rebuilt w t.name t.deps = .ok (ofStore root rebuilt (StoreView.store w) t) := by
  unfold Staleness.decide ofStore
  rw [StoreView.modified_eq]
  unfold Store.fileOf? Store.modified?
  cases (StoreView.store w).get? (Path.join root t.name) with
  | none => rfl
  | some output =>
    dsimp only [Option.map_some]
    cases t.deps.find? rebuilt.contains with
    | some dep => rfl
    | none =>
      dsimp only
      rw [firstNewer?_eq]
      cases t.deps.find? ((StoreView.store w).isNewer root output.modified) <;> rfl

/-- A target is current if its output is there, no dependency was rebuilt, and none is newer. -/
theorem ofStore_eq_upToDate {s : Store} {t : Target} :
    ofStore root rebuilt s t = .upToDate ↔ ∃ output, s.fileOf? root t.name = some output ∧
      ∀ dep ∈ t.deps, dep ∉ rebuilt ∧ s.isNewer root output.modified dep = false := by
  unfold ofStore
  cases s.fileOf? root t.name with
  | none => simp
  | some output =>
    simp only [Option.some.injEq, exists_eq_left', forall_and]
    cases hr : t.deps.find? rebuilt.contains with
    | some dep =>
      exact iff_of_false (by simp) fun h => h.1 dep (List.mem_of_find?_eq_some hr) (List.find?_some hr)
    | none =>
      dsimp only
      cases hn : t.deps.find? (s.isNewer root output.modified) with
      | some dep =>
        refine iff_of_false (by simp) fun h => ?_
        have := h.2 dep (List.mem_of_find?_eq_some hn)
        rw [List.find?_some hn] at this
        cases this
      | none => exact iff_of_true rfl ⟨List.find?_eq_none.mp hr, by simpa using List.find?_eq_none.mp hn⟩

/-- Two stores that agree on the output, and on all dependencies not rebuilt, lead to the same decision. -/
theorem ofStore_congr {s s' : Store} {t : Target} (ho : s.fileOf? root t.name = s'.fileOf? root t.name)
    (hd : ∀ dep ∈ t.deps, dep ∉ rebuilt → s.fileOf? root dep = s'.fileOf? root dep) :
    ofStore root rebuilt s t = ofStore root rebuilt s' t := by
  unfold ofStore
  rw [ho]
  cases s'.fileOf? root t.name with
  | none => rfl
  | some output =>
    cases hr : t.deps.find? rebuilt.contains with
    | some dep => rfl
    | none =>
      have hsame : t.deps.find? (s.isNewer root output.modified) = t.deps.find? (s'.isNewer root output.modified) :=
        List.find?_congr fun dep hdep => by
          unfold Store.isNewer
          rw [hd dep hdep (List.find?_eq_none.mp hr dep hdep)]
      dsimp only
      rw [hsame]

end Staleness

namespace Build

variable {σ : Type u} [StoreView σ]

/-- All dependencies are there if each has a file or, in a dry run, would have been rebuilt. -/
theorem missingSource?_eq_none {root : String} {dryRun : Bool} {rebuilt : NameSet} {w : σ} {t : Target} :
    missingSource? root dryRun rebuilt w t = none ↔ ∀ dep ∈ t.deps,
      ((StoreView.store w).fileOf? root dep).isSome ∨ dryRun = true ∧ dep ∈ rebuilt := by
  rw [missingSource?_eq_none_iff]
  refine forall₂_congr fun dep _ => ?_
  rw [StoreView.isThere_eq]
  rfl

/-- The ways in which a step can go. -/
inductive StepCase (runner : Runner σ) (root : String) (dryRun : Bool) (rebuilt : NameSet) (w : σ) (t : Target) :
    Run σ StepResult → Prop
  /-- A dependency is not there. -/
  | missing {dep : Name} (hdep : missingSource? root dryRun rebuilt w t = some dep) :
    StepCase runner root dryRun rebuilt w t ⟨.error (.missingSource dep), [], w⟩
  /-- The output is current. -/
  | current (hdeps : missingSource? root dryRun rebuilt w t = none)
    (hstale : Staleness.ofStore root rebuilt (StoreView.store w) t = .upToDate) :
    StepCase runner root dryRun rebuilt w t ⟨.ok ⟨t.name, .upToDate, .upToDate, none⟩, [], w⟩
  /-- The target is stale, in a dry run. -/
  | planned (hdeps : missingSource? root dryRun rebuilt w t = none)
    (hstale : Staleness.ofStore root rebuilt (StoreView.store w) t ≠ .upToDate) (hdry : dryRun = true) :
    StepCase runner root dryRun rebuilt w t
      ⟨.ok ⟨t.name, Staleness.ofStore root rebuilt (StoreView.store w) t, .wouldBuild, none⟩, [], w⟩
  /-- The target is stale, and its command is to blame. -/
  | failed (hdeps : missingSource? root dryRun rebuilt w t = none)
    (hstale : Staleness.ofStore root rebuilt (StoreView.store w) t ≠ .upToDate) (hdry : dryRun = false)
    {failure : Failure} (hblame : failure.culprit? = some t.name)
    (hend : resultOfCommand root t (Staleness.ofStore root rebuilt (StoreView.store w) t)
      (runner (t.invocation root) w).2 (runner (t.invocation root) w).1 = .error failure) :
    StepCase runner root dryRun rebuilt w t
      ⟨.error failure, [t.invocation root], (runner (t.invocation root) w).2⟩
  /-- The target is stale, its command ends well, and the output is there. -/
  | built (hdeps : missingSource? root dryRun rebuilt w t = none)
    (hstale : Staleness.ofStore root rebuilt (StoreView.store w) t ≠ .upToDate) (hdry : dryRun = false)
    {output : Output} (hend : (runner (t.invocation root) w).1 = .ok output) (hstatus : output.status.isSuccess = true)
    (hmade : ((StoreView.store (runner (t.invocation root) w).2).fileOf? root t.name).isSome) :
    StepCase runner root dryRun rebuilt w t
      ⟨.ok ⟨t.name, Staleness.ofStore root rebuilt (StoreView.store w) t, .built, some output⟩,
        [t.invocation root], (runner (t.invocation root) w).2⟩

theorem Blames.culprit? {root : String} {t : Target} {w : σ} {ended : Except StartFault Output} {failure : Failure}
    (h : Blames root t w ended failure) : failure.culprit? = some t.name := by
  cases h <;> rfl

theorem stepCase (runner : Runner σ) (root : String) (dryRun : Bool) (rebuilt : NameSet) (w : σ) (t : Target) :
    StepCase runner root dryRun rebuilt w t (runStep runner root dryRun rebuilt w t) := by
  have hexit := stepExit runner root dryRun rebuilt w t
  generalize runStep runner root dryRun rebuilt w t = step at hexit
  cases hexit with
  | missing hdep => exact .missing hdep
  | unreadable _ hfault => rw [Staleness.decide_eq] at hfault; cases hfault
  | current hdeps hcurrent =>
    rw [Staleness.decide_eq] at hcurrent
    exact .current hdeps (Except.ok.inj hcurrent)
  | planned hdeps hdecide hstale hdry =>
    rw [Staleness.decide_eq] at hdecide
    cases hdecide
    exact .planned hdeps hstale hdry
  | invoked hdeps hdecide hstale hdry =>
    rw [Staleness.decide_eq] at hdecide
    cases hdecide
    cases he : resultOfCommand root t (Staleness.ofStore root rebuilt (StoreView.store w) t)
        (runner (t.invocation root) w).2 (runner (t.invocation root) w).1 with
    | error failure => exact .failed hdeps hstale hdry (blames_of_resultOfCommand he).culprit? he
    | ok r =>
      obtain ⟨output, rfl, hend, hstatus, hmade⟩ := exists_of_resultOfCommand_ok he
      rw [StoreView.isThere_eq] at hmade
      exact .built hdeps hstale hdry hend hstatus hmade

end Build

end Rebuild
