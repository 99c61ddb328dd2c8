import Mathlib.Data.List.Find
import Rebuild.Build

/-!
# The exits of a step

- A decision fails only where the time of the target or of a dependency cannot be told (`exists_of_decide_error`), and a
  target is current if its output is there and none of its dependencies was rebuilt or is newer (`decide_eq_upToDate`);
- a command that was invoked is to blame for a failure in one of three ways (`Build.blames_of_resultOfCommand`), or it
  ended well and the output is there (`Build.exists_of_resultOfCommand_ok`);
- so a step has five exits, which `Build.StepExit` lists with all that each of them means, whatever the files are and
  whatever the commands do (`Build.stepExit`): later modules take a step apart by it and never unfold it.
-/

namespace Rebuild

variable {σ : Type u} [FileView σ] {root : String} {dryRun : Bool} {rebuilt : NameSet} {w : σ}

namespace Staleness

variable {time : Time} {target : Name} {deps : List Name} {fault : FileFault}

/-! ## Decisions -/

theorem exists_of_firstNewer?_error (h : firstNewer? root w time deps = .error fault) :
    ∃ dep ∈ deps, FileView.modified w (Path.join root dep) = .error fault := by
  induction deps with
  | nil => cases h
  | cons dep deps ih =>
    unfold firstNewer? at h
    split at h
    · next hfault => cases h; exact ⟨dep, List.mem_cons_self, hfault⟩
    · obtain ⟨dep', hdep', hfault⟩ := ih h
      exact ⟨dep', List.mem_cons_of_mem _ hdep', hfault⟩
    · split at h
      · cases h
      · obtain ⟨dep', hdep', hfault⟩ := ih h
        exact ⟨dep', List.mem_cons_of_mem _ hdep', hfault⟩

/-- A decision fails where a time cannot be told. -/
theorem exists_of_decide_error (h : Staleness.decide root rebuilt w target deps = .error fault) :
    ∃ name ∈ target :: deps, FileView.modified w (Path.join root name) = .error fault := by
  unfold Staleness.decide at h
  split at h
  · next hfault => cases h; exact ⟨target, List.mem_cons_self, hfault⟩
  · cases h
  · split at h
    · cases h
    · split at h
      · next hfault =>
        cases h
        obtain ⟨dep, hdep, hfault⟩ := exists_of_firstNewer?_error hfault
        exact ⟨dep, List.mem_cons_of_mem _ hdep, hfault⟩
      · cases h
      · cases h

/-- What is at the path of a name, if anything, is not later than a time. -/
def NoLater (root : String) (w : σ) (time : Time) (name : Name) : Prop :=
  ∃ modified, FileView.modified w (Path.join root name) = .ok modified ∧ ∀ m, modified = some m → m ≤ time

theorem firstNewer?_eq_none : firstNewer? root w time deps = .ok none ↔ ∀ dep ∈ deps, NoLater root w time dep := by
  induction deps with
  | nil => simp [firstNewer?]
  | cons dep deps ih =>
    rw [firstNewer?, List.forall_mem_cons, ← ih]
    unfold NoLater
    cases FileView.modified w (Path.join root dep) with
    | error fault => simp
    | ok modified =>
      cases modified with
      | none => simp
      | some m => by_cases h : time < m <;> simp [h, Nat.not_le.mpr, Nat.not_lt.mp]

/-- A target is current if its output is there, no dependency was rebuilt, and none is later than the output. -/
theorem decide_eq_upToDate : Staleness.decide root rebuilt w target deps = .ok .upToDate ↔
    ∃ time, FileView.modified w (Path.join root target) = .ok (some time) ∧
      ∀ dep ∈ deps, dep ∉ rebuilt ∧ NoLater root w time dep := by
  unfold Staleness.decide
  cases FileView.modified w (Path.join root target) with
  | error fault => simp
  | ok modified =>
    cases modified with
    | none => simp
    | some time =>
      simp only [Except.ok.injEq, Option.some.injEq, exists_eq_left', forall_and, ← firstNewer?_eq_none]
      cases hr : deps.find? rebuilt.contains with
      | some dep =>
        exact iff_of_false (by simp) fun h => h.1 dep (List.mem_of_find?_eq_some hr) (List.find?_some hr)
      | none =>
        have hnone : ∀ dep ∈ deps, dep ∉ rebuilt := List.find?_eq_none.mp hr
        dsimp only
        cases firstNewer? root w time deps with
        | error fault => simp
        | ok newer =>
          cases newer with
          | none => simpa using hnone
          | some dep => simp

end Staleness

namespace Build

variable {t : Target}

/-! ## Dependencies that are not there -/

/-- All dependencies are there if each is or, in a dry run, would have been rebuilt. -/
theorem missingSource?_eq_none_iff : missingSource? root dryRun rebuilt w t = none ↔
    ∀ dep ∈ t.deps, FileView.isThere w (Path.join root dep) = true ∨ dryRun = true ∧ dep ∈ rebuilt := by
  unfold missingSource?
  rw [List.find?_eq_none]
  refine forall₂_congr fun dep _ => ?_
  rw [Bool.not_eq_true, Bool.not_eq_false', Bool.or_eq_true, Bool.and_eq_true]
  rfl

/-- What is missing in a real run is the first dependency that is not there. -/
theorem missingSource?_eq_some {dep : Name} (h : missingSource? root false rebuilt w t = some dep) :
    ∃ before after, t.deps = before ++ dep :: after ∧
      (∀ d ∈ before, FileView.isThere w (Path.join root d) = true) ∧
      FileView.isThere w (Path.join root dep) = false := by
  obtain ⟨hdep, before, after, heq, hbefore⟩ := List.find?_eq_some_iff_append.mp h
  exact ⟨before, after, heq, fun d hd => by simpa using hbefore d hd, by simpa using hdep⟩

/-! ## Commands -/

/-- The ways in which a command can be to blame for a failure, in the world that it left. -/
inductive Blames (root : String) (t : Target) (w : σ) : Except StartFault Output → Failure → Prop
  /-- It did not start. -/
  | notStarted {fault : StartFault} : Blames root t w (.error fault) (.buildFailed t.name (.notStarted fault))
  /-- It did not end well. -/
  | ended {output : Output} (hstatus : output.status.isSuccess = false) :
    Blames root t w (.ok output) (.buildFailed t.name (.ended output))
  /-- It ended well, but the output is not there. -/
  | notProduced {output : Output} (hstatus : output.status.isSuccess = true)
    (habsent : FileView.isThere w (Path.join root t.name) = false) :
    Blames root t w (.ok output) (.outputNotProduced t.name)

variable {staleness : Staleness} {ended : Except StartFault Output}

/-- Where a command's end comes to a failure, the command is to blame. -/
theorem blames_of_resultOfCommand {failure : Failure}
    (h : resultOfCommand root t staleness w ended = .error failure) : Blames root t w ended failure := by
  unfold resultOfCommand at h
  cases ended with
  | error fault => cases h; exact .notStarted
  | ok output =>
    dsimp only at h
    split at h
    · next hstatus => cases h; exact .ended (by simpa using hstatus)
    · next hstatus =>
      split at h
      · next habsent => cases h; exact .notProduced (by simpa using hstatus) (by simpa using habsent)
      · cases h

/-- Where it does not, the command ended well and the output is there. -/
theorem exists_of_resultOfCommand_ok {r : StepResult} (h : resultOfCommand root t staleness w ended = .ok r) :
    ∃ output, r = ⟨t.name, staleness, .built, some output⟩ ∧ ended = .ok output ∧
      output.status.isSuccess = true ∧ FileView.isThere w (Path.join root t.name) = true := by
  unfold resultOfCommand at h
  cases ended with
  | error fault => cases h
  | ok output =>
    dsimp only at h
    split at h
    · cases h
    · next hstatus =>
      split at h
      · cases h
      · next hthere => cases h; exact ⟨output, rfl, rfl, by simpa using hstatus, by simpa using hthere⟩

/-! ## Steps -/

/-- The exits of a step. -/
inductive StepExit (runner : Runner σ) (root : String) (dryRun : Bool) (rebuilt : NameSet) (w : σ) (t : Target) :
    Run σ StepResult → Prop
  /-- A dependency is not there. -/
  | missing {dep : Name} (hdep : missingSource? root dryRun rebuilt w t = some dep) :
    StepExit runner root dryRun rebuilt w t ⟨.error (.missingSource dep), [], w⟩
  /-- A time cannot be told. -/
  | unreadable {fault : FileFault} (hdeps : missingSource? root dryRun rebuilt w t = none)
    (hfault : Staleness.decide root rebuilt w t.name t.deps = .error fault) :
    StepExit runner root dryRun rebuilt w t ⟨.error (.unreadable fault), [], w⟩
  /-- The output is current. -/
  | current (hdeps : missingSource? root dryRun rebuilt w t = none)
    (hcurrent : Staleness.decide root rebuilt w t.name t.deps = .ok .upToDate) :
    StepExit runner root dryRun rebuilt w t ⟨.ok ⟨t.name, .upToDate, .upToDate, none⟩, [], w⟩
  /-- The target is stale, in a dry run. -/
  | planned {staleness : Staleness} (hdeps : missingSource? root dryRun rebuilt w t = none)
    (hdecide : Staleness.decide root rebuilt w t.name t.deps = .ok staleness) (hstale : staleness ≠ .upToDate)
    (hdry : dryRun = true) :
    StepExit runner root dryRun rebuilt w t ⟨.ok ⟨t.name, staleness, .wouldBuild, none⟩, [], w⟩
  /-- The target is stale, and its command is invoked. -/
  | invoked {staleness : Staleness} (hdeps : missingSource? root dryRun rebuilt w t = none)
    (hdecide : Staleness.decide root rebuilt w t.name t.deps = .ok staleness) (hstale : staleness ≠ .upToDate)
    (hdry : dryRun = false) :
    StepExit runner root dryRun rebuilt w t
      ⟨resultOfCommand root t staleness (runner (t.invocation root) w).2 (runner (t.invocation root) w).1,
        [t.invocation root], (runner (t.invocation root) w).2⟩

theorem stepExit (runner : Runner σ) (root : String) (dryRun : Bool) (rebuilt : NameSet) (w : σ) (t : Target) :
    StepExit runner root dryRun rebuilt w t (runStep runner root dryRun rebuilt w t) := by
  unfold runStep decideStep
  cases hdeps : missingSource? root dryRun rebuilt w t with
  | some dep => exact .missing hdeps
  | none =>
    dsimp only
    cases hdecide : Staleness.decide root rebuilt w t.name t.deps with
    | error fault => exact .unreadable hdeps hdecide
    | ok staleness =>
      have hstale : staleness ≠ .upToDate → StepExit runner root dryRun rebuilt w t
          (if dryRun then ⟨.ok ⟨t.name, staleness, .wouldBuild, none⟩, [], w⟩
            else ⟨resultOfCommand root t staleness (runner (t.invocation root) w).2 (runner (t.invocation root) w).1,
              [t.invocation root], (runner (t.invocation root) w).2⟩) := by
        intro hne
        cases dryRun with
        | true => exact .planned hdeps hdecide hne rfl
        | false => exact .invoked hdeps hdecide hne rfl
      cases staleness with
      | upToDate => exact .current hdeps hdecide
      | outputMissing => exact hstale (by simp)
      | dependencyRebuilt dep => exact hstale (by simp)
      | dependencyNewer dep => exact hstale (by simp)

end Build

end Rebuild
