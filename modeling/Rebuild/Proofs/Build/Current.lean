import Rebuild.Proofs.Build.Step
import Rebuild.Proofs.Build.Steps

/-!
# Targets that are current

Whether a target is stale on its own (`Target.StaleAlone`) or current (`Target.Current`) is a matter of its file and the
files of its dependencies. A decision adds to this only what was rebuilt in the same run (`ofStore_ne_upToDate`), so
steps whose targets are all current invoke nothing and change nothing (`runSteps_of_current`).
-/

namespace Rebuild

namespace Target

/-- The output of a target is not there, or a dependency that is there is later. -/
def StaleAlone (t : Target) (root : String) (s : Store) : Prop :=
  s.fileOf? root t.name = none ∨
    ∃ output, s.fileOf? root t.name = some output ∧
      ∃ dep ∈ t.deps, ∃ file, s.fileOf? root dep = some file ∧ output.modified < file.modified

/-- The output of a target and all its dependencies are there, and no dependency is later. -/
def Current (t : Target) (root : String) (s : Store) : Prop :=
  ∃ output, s.fileOf? root t.name = some output ∧
    ∀ dep ∈ t.deps, ∃ file, s.fileOf? root dep = some file ∧ file.modified ≤ output.modified

variable {t : Target} {root : String} {s s' : Store}

theorem Current.congr (h : t.Current root s) (hname : s'.fileOf? root t.name = s.fileOf? root t.name)
    (hdeps : ∀ dep ∈ t.deps, s'.fileOf? root dep = s.fileOf? root dep) : t.Current root s' := by
  obtain ⟨output, ho, hall⟩ := h
  refine ⟨output, hname.trans ho, fun dep hdep => ?_⟩
  obtain ⟨file, hf, hle⟩ := hall dep hdep
  exact ⟨file, (hdeps dep hdep).trans hf, hle⟩

end Target

namespace Staleness

variable {root : String} {rebuilt : NameSet} {s : Store} {t : Target}

/-- A decision says that the target is stale on its own or that a dependency was rebuilt. -/
theorem ofStore_ne_upToDate :
    ofStore root rebuilt s t ≠ .upToDate ↔ t.StaleAlone root s ∨ ∃ dep ∈ t.deps, dep ∈ rebuilt := by
  rw [Ne, ofStore_eq_upToDate, Target.StaleAlone]
  cases s.fileOf? root t.name with
  | none => simp
  | some output =>
    constructor
    · intro h
      by_cases hr : ∃ dep ∈ t.deps, dep ∈ rebuilt
      · exact Or.inr hr
      · refine Or.inl (Or.inr ⟨output, rfl, ?_⟩)
        by_contra hn
        refine h ⟨output, rfl, fun dep hdep => ⟨fun hm => hr ⟨dep, hdep, hm⟩, ?_⟩⟩
        rw [← Bool.not_eq_true, Store.isNewer_iff]
        exact fun hnewer => hn ⟨dep, hdep, hnewer⟩
    · rintro h ⟨output', he, hall⟩
      cases he
      rcases h with h | ⟨dep, hdep, hm⟩
      · rcases h with h | ⟨output', he, dep, hdep, hnewer⟩
        · cases h
        · cases he
          exact Bool.false_ne_true ((hall dep hdep).2.symm.trans (Store.isNewer_iff.mpr hnewer))
      · exact (hall dep hdep).1 hm

/-- A target found up to date, with all its dependencies there, is current. -/
theorem current_of_ofStore (hthere : ∀ dep ∈ t.deps, (s.fileOf? root dep).isSome)
    (h : ofStore root rebuilt s t = .upToDate) : t.Current root s := by
  obtain ⟨output, ho, hall⟩ := ofStore_eq_upToDate.mp h
  refine ⟨output, ho, fun dep hdep => ?_⟩
  obtain ⟨file, hf⟩ := Option.isSome_iff_exists.mp (hthere dep hdep)
  refine ⟨file, hf, Nat.le_of_not_lt fun hlt => ?_⟩
  exact Bool.false_ne_true ((hall dep hdep).2.symm.trans (Store.isNewer_iff.mpr ⟨file, hf, hlt⟩))

/-- A current target is found up to date, unless a dependency was rebuilt. -/
theorem ofStore_of_current (h : t.Current root s) (hr : ∀ dep ∈ t.deps, dep ∉ rebuilt) :
    ofStore root rebuilt s t = .upToDate := by
  obtain ⟨output, ho, hall⟩ := h
  refine ofStore_eq_upToDate.mpr ⟨output, ho, fun dep hdep => ⟨hr dep hdep, ?_⟩⟩
  rw [← Bool.not_eq_true, Store.isNewer_iff]
  rintro ⟨file, hf, hlt⟩
  obtain ⟨file', hf', hle⟩ := hall dep hdep
  rw [hf] at hf'
  cases hf'
  exact Nat.not_lt_of_le hle hlt

end Staleness

namespace Build

variable {σ : Type u} [StoreView σ] {runner : Runner σ} {root : String} {dryRun : Bool} {w : σ}

/-- What a step says of a target that is current. -/
def currentResult (t : Target) : StepResult :=
  ⟨t.name, .upToDate, .upToDate, none⟩

/-- Where a target is current and no dependency was rebuilt, a step invokes nothing and changes nothing. -/
theorem runStep_of_current {rebuilt : NameSet} {t : Target} (h : t.Current root (StoreView.store w))
    (hr : ∀ dep ∈ t.deps, dep ∉ rebuilt) :
    runStep runner root dryRun rebuilt w t = ⟨.ok (currentResult t), [], w⟩ := by
  have hstale : Staleness.ofStore root rebuilt (StoreView.store w) t = .upToDate := Staleness.ofStore_of_current h hr
  have hdeps : missingSource? root dryRun rebuilt w t = none := missingSource?_eq_none.mpr fun dep hdep => by
    obtain ⟨_, _, hall⟩ := h
    obtain ⟨file, hf, _⟩ := hall dep hdep
    rw [hf]
    exact Or.inl rfl
  have hcase := stepCase runner root dryRun rebuilt w t
  generalize runStep runner root dryRun rebuilt w t = step at hcase
  cases hcase with
  | missing hm => rw [hdeps] at hm; cases hm
  | current => rfl
  | planned _ hs => exact absurd hstale hs
  | failed _ hs => exact absurd hstale hs
  | built _ hs => exact absurd hstale hs

/-- Where all targets are current, steps invoke nothing and change nothing. -/
theorem runSteps_of_current {ts : List Target} (h : ∀ t ∈ ts, t.Current root (StoreView.store w)) :
    runSteps runner root dryRun ∅ w ts = ⟨.ok (ts.map currentResult), [], w⟩ := by
  induction ts with
  | nil => rfl
  | cons t ts ih =>
    have hstep : runStep runner root dryRun ∅ w t = ⟨.ok (currentResult t), [], w⟩ :=
      runStep_of_current (h t List.mem_cons_self) fun _ _ => by simp
    rw [runSteps_of_ok (congrArg Run.result hstep), hstep]
    dsimp only
    rw [show markRebuilt ∅ (currentResult t) = ∅ from rfl, ih fun u hu => h u (List.mem_cons_of_mem _ hu)]
    rfl

theorem marks_current (ts : List Target) : marks ∅ (ts.map currentResult) = ∅ := by
  induction ts with
  | nil => rfl
  | cons t ts ih => exact ih

end Build

end Rebuild
