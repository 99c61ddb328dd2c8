import Rebuild.Proofs.Build.Step
import Rebuild.Proofs.Edits

/-!
# What a decision reacts to

- A decision names the first dependency that its reason holds of (`ofStore_eq_dependencyRebuilt`,
  `ofStore_eq_dependencyNewer`);
- more marks never make a stale target current (`upToDate_of_subset`);
- an edit about neither the output nor a dependency changes nothing (`ofStore_apply_of_unrelated`), and a removal of any
  file but the output makes no target stale (`upToDate_remove`);
- since no file is later than the clock, a target is not current after a write to a dependency
  (`ofStore_write_dependency`), and current after a write to its output unless a dependency is marked
  (`ofStore_write_output`).

Together: `decision_reacts`.
-/

namespace Rebuild.Staleness

variable {root : String} {rebuilt : NameSet} {s : Store} {t : Target}

/-! ## Reasons -/

/-- The first of some names that a property holds of. -/
def FirstOf (p : Name → Prop) (names : List Name) (name : Name) : Prop :=
  ∃ before after, names = before ++ name :: after ∧ p name ∧ ∀ other ∈ before, ¬p other

theorem find?_eq_some_iff_firstOf {q : Name → Bool} {p : Name → Prop} (hq : ∀ name, q name = true ↔ p name)
    {names : List Name} {name : Name} : names.find? q = some name ↔ FirstOf p names name := by
  rw [List.find?_eq_some_iff_append]
  unfold FirstOf
  constructor
  · rintro ⟨hname, before, after, hnames, hbefore⟩
    refine ⟨before, after, hnames, (hq name).mp hname, fun other hother hp => ?_⟩
    have := hbefore other hother
    rw [(hq other).mpr hp] at this
    cases this
  · rintro ⟨before, after, hnames, hname, hbefore⟩
    refine ⟨(hq name).mpr hname, before, after, hnames, fun other hother => ?_⟩
    rw [Bool.not_eq_true', ← Bool.not_eq_true, hq]
    exact hbefore other hother

/-- A file of the store is later than a file. -/
def Later (root : String) (s : Store) (output : File) (name : Name) : Prop :=
  ∃ file, s.fileOf? root name = some file ∧ output.modified < file.modified

theorem find?_contains_iff {dep : Name} :
    t.deps.find? rebuilt.contains = some dep ↔ FirstOf (· ∈ rebuilt) t.deps dep :=
  find?_eq_some_iff_firstOf fun _ => Iff.rfl

theorem find?_isNewer_iff {output : File} {dep : Name} :
    t.deps.find? (s.isNewer root output.modified) = some dep ↔ FirstOf (Later root s output) t.deps dep :=
  find?_eq_some_iff_firstOf fun _ => Store.isNewer_iff

/-- A marked dependency is named if the output is there, and it is the first one. -/
theorem ofStore_eq_dependencyRebuilt {dep : Name} : ofStore root rebuilt s t = .dependencyRebuilt dep ↔
    (∃ output, s.fileOf? root t.name = some output) ∧ FirstOf (· ∈ rebuilt) t.deps dep := by
  rw [← find?_contains_iff]
  unfold ofStore
  cases s.fileOf? root t.name with
  | none => simp
  | some output =>
    cases t.deps.find? rebuilt.contains with
    | some first => simp
    | none =>
      dsimp only
      cases t.deps.find? (s.isNewer root output.modified) <;> simp

/-- A later dependency is named if the output is there, no dependency is marked, and it is the first one. -/
theorem ofStore_eq_dependencyNewer {dep : Name} : ofStore root rebuilt s t = .dependencyNewer dep ↔
    ∃ output, s.fileOf? root t.name = some output ∧ (∀ d ∈ t.deps, d ∉ rebuilt) ∧
      FirstOf (Later root s output) t.deps dep := by
  simp only [← find?_isNewer_iff]
  unfold ofStore
  cases s.fileOf? root t.name with
  | none => simp
  | some output =>
    simp only [Option.some.injEq, exists_eq_left']
    cases hr : t.deps.find? rebuilt.contains with
    | some first =>
      refine iff_of_false (by simp) fun h => ?_
      exact h.1 first (List.mem_of_find?_eq_some hr) (List.find?_some hr)
    | none =>
      have hnone : ∀ d ∈ t.deps, d ∉ rebuilt := List.find?_eq_none.mp hr
      dsimp only
      rw [and_iff_right hnone]
      cases t.deps.find? (s.isNewer root output.modified) <;> simp

/-! ## Marks -/

/-- What is current with more marks is current with fewer. -/
theorem upToDate_of_subset {more : NameSet} (hsub : ∀ name, name ∈ rebuilt → name ∈ more)
    (h : ofStore root more s t = .upToDate) : ofStore root rebuilt s t = .upToDate := by
  obtain ⟨output, ho, hall⟩ := ofStore_eq_upToDate.mp h
  refine ofStore_eq_upToDate.mpr ⟨output, ho, fun dep hdep => ?_⟩
  exact ⟨fun hm => (hall dep hdep).1 (hsub dep hm), (hall dep hdep).2⟩

/-! ## Files -/

theorem ofStore_apply_of_unrelated {e : Store.Edit} (h : ∀ name ∈ t.name :: t.deps, ¬e.Concerns (Path.join root name)) :
    ofStore root rebuilt (s.apply e) t = ofStore root rebuilt s t := by
  obtain ⟨hname, hdeps⟩ := List.forall_mem_cons.mp h
  refine ofStore_congr ?_ fun dep hdep _ => ?_
  · exact Store.get?_apply_of_not_concerns hname
  · exact Store.get?_apply_of_not_concerns (hdeps dep hdep)

theorem isNewer_remove {path : String} {time : Time} {name : Name} (h : s.isNewer root time name = false) :
    (s.remove path).isNewer root time name = false := by
  rw [← Bool.not_eq_true, Store.isNewer_iff] at h ⊢
  rintro ⟨file, hfile, hlt⟩
  refine h ⟨file, ?_, hlt⟩
  rw [Store.fileOf?, Store.get?_remove] at hfile
  split at hfile
  · cases hfile
  · exact hfile

/-- A target that is current stays so when a file that is not its output is removed. -/
theorem upToDate_remove {path : String} (hpath : Path.normal path ≠ Path.normal (Path.join root t.name))
    (h : ofStore root rebuilt s t = .upToDate) : ofStore root rebuilt (s.remove path) t = .upToDate := by
  obtain ⟨output, ho, hall⟩ := ofStore_eq_upToDate.mp h
  refine ofStore_eq_upToDate.mpr ⟨output, ?_, fun dep hdep => ⟨(hall dep hdep).1, isNewer_remove (hall dep hdep).2⟩⟩
  rw [Store.fileOf?, Store.get?_remove, if_neg hpath]
  exact ho

/-- After a write to a dependency that is not the output, the dependency is later than the output. -/
theorem ofStore_write_dependency (hs : s.Clocked) {path : String} (content : ByteArray) {dep : Name}
    (hdep : dep ∈ t.deps)
    (hpath : Path.normal path = Path.normal (Path.join root dep))
    (hother : Path.normal path ≠ Path.normal (Path.join root t.name)) :
    ofStore root rebuilt (s.write path content) t ≠ .upToDate := by
  intro h
  obtain ⟨output, ho, hall⟩ := ofStore_eq_upToDate.mp h
  have hsame : s.fileOf? root t.name = some output := by
    rwa [Store.fileOf?, Store.get?_write, if_neg hother] at ho
  have hnew : (s.write path content).fileOf? root dep = some ⟨content, s.clock + 1⟩ := by
    rw [Store.fileOf?, Store.get?_write, if_pos hpath]
  have hlater : (s.write path content).isNewer root output.modified dep = true :=
    Store.isNewer_iff.mpr ⟨_, hnew, Nat.lt_succ_of_le (hs _ output hsame)⟩
  rw [(hall dep hdep).2] at hlater
  cases hlater

/-- After a write to the output no dependency is later, so only marks count. -/
theorem ofStore_write_output (hs : s.Clocked) {path : String} (content : ByteArray)
    (hpath : Path.normal path = Path.normal (Path.join root t.name)) :
    ofStore root rebuilt (s.write path content) t = .upToDate ↔ ∀ dep ∈ t.deps, dep ∉ rebuilt := by
  have ho : (s.write path content).fileOf? root t.name = some ⟨content, s.clock + 1⟩ := by
    rw [Store.fileOf?, Store.get?_write, if_pos hpath]
  have hnewer : ∀ dep, (s.write path content).isNewer root (s.clock + 1) dep = false := by
    intro dep
    rw [← Bool.not_eq_true, Store.isNewer_iff]
    rintro ⟨file, hfile, hlt⟩
    exact Nat.not_lt_of_le (hs.write path content _ file hfile) hlt
  rw [ofStore_eq_upToDate]
  constructor
  · rintro ⟨output, _, hall⟩ dep hdep
    exact (hall dep hdep).1
  · intro h
    exact ⟨_, ho, fun dep hdep => ⟨h dep hdep, hnewer dep⟩⟩

/-! ## Together -/

/-- **What a decision reacts to.** In the files after any edits, and with any marks, a decision is made on a target.
- With further marks a stale target stays stale.
- Writing, stamping or removing a file that is neither the output nor a dependency does not change the decision, and
  removing any file but the output leaves a current target current.
- After a write to a dependency that is not the output as well, the target is not current; after a write to the output
  it is current exactly if no dependency is marked.
- Where the decision names a dependency, it is the first one that is marked, or, if none is, the first one that is later
  than the output; it does so whenever the output is there and such a dependency exists. -/
theorem decision_reacts (root : String) (edits : List Store.Edit) (rebuilt : NameSet) (t : Target) :
    let s := Store.empty.applyAll edits
    let decision (rebuilt : NameSet) (s : Store) := Staleness.decide root rebuilt s t.name t.deps
    (∃ staleness, decision rebuilt s = .ok staleness) ∧
    (∀ names : List Name, decision rebuilt s ≠ .ok .upToDate → decision (rebuilt.insertMany names) s ≠ .ok .upToDate) ∧
    (∀ e : Store.Edit, (∀ name ∈ t.name :: t.deps, ¬e.Concerns (Path.join root name)) →
      decision rebuilt (s.apply e) = decision rebuilt s) ∧
    (∀ path, Path.normal path ≠ Path.normal (Path.join root t.name) → decision rebuilt s = .ok .upToDate →
      decision rebuilt (s.remove path) = .ok .upToDate) ∧
    (∀ path content, (∃ dep ∈ t.deps, Path.normal path = Path.normal (Path.join root dep)) →
      Path.normal path ≠ Path.normal (Path.join root t.name) →
      decision rebuilt (s.write path content) ≠ .ok .upToDate) ∧
    (∀ path content, Path.normal path = Path.normal (Path.join root t.name) →
      (decision rebuilt (s.write path content) = .ok .upToDate ↔ ∀ dep ∈ t.deps, dep ∉ rebuilt)) ∧
    (∀ dep, decision rebuilt s = .ok (.dependencyRebuilt dep) ↔
      (∃ output, s.fileOf? root t.name = some output) ∧ FirstOf (· ∈ rebuilt) t.deps dep) ∧
    ∀ dep, decision rebuilt s = .ok (.dependencyNewer dep) ↔
      ∃ output, s.fileOf? root t.name = some output ∧ (∀ d ∈ t.deps, d ∉ rebuilt) ∧
        FirstOf (Later root s output) t.deps dep := by
  intro s decision
  have hs : s.Clocked := Store.clocked_applyAll edits
  have hdecision : ∀ rebuilt s', decision rebuilt s' = .ok (ofStore root rebuilt s' t) := fun _ s' => decide_eq s' t
  simp only [hdecision, Except.ok.injEq, ne_eq]
  refine ⟨⟨_, rfl⟩, fun names hstale h => hstale (upToDate_of_subset (fun name hm => ?_) h),
    fun e he => ofStore_apply_of_unrelated he, fun path hpath h => upToDate_remove hpath h, ?_,
    fun path content hpath => ofStore_write_output hs content hpath, fun dep => ofStore_eq_dependencyRebuilt,
    fun dep => ofStore_eq_dependencyNewer⟩
  · exact Std.TreeSet.mem_insertMany_list.mpr (Or.inl hm)
  · rintro path content ⟨dep, hdep, hpath⟩ hother
    exact ofStore_write_dependency hs content hdep hpath hother

/-- An output later than its two dependencies, of which the second is then marked. -/
theorem decision_reacts_second_marked :
    let s := Store.empty.applyAll [.write "A" "x".toByteArray, .write "./B" "y".toByteArray,
      .write "C" "z".toByteArray, .stamp "D" 40]
    let decision (rebuilt : NameSet) (s : Store) := Staleness.decide "." rebuilt s "C" ["B", "A", "B"]
    let marked : NameSet := .ofList ["A"]
    decision ∅ s = .ok .upToDate ∧ decision marked s = .ok (.dependencyRebuilt "A") ∧
      decision (marked.insertMany ["D", "C"]) s ≠ .ok .upToDate ∧
      decision ∅ (s.apply (.write "D" "w".toByteArray)) = decision ∅ s ∧
      decision ∅ (s.remove "A/") = .ok .upToDate ∧
      decision ∅ (s.write "./A" "x".toByteArray) ≠ .ok .upToDate ∧
      decision ∅ ((s.write "A" "x".toByteArray).write "C/." "z".toByteArray) = .ok .upToDate ∧
      decision ∅ (s.apply (.stamp "B" 90)) = .ok (.dependencyNewer "B") := by
  intro s decision marked
  let t : Target := ⟨"C", ["B", "A", "B"], "cat", []⟩
  let edits : List Store.Edit := [.write "A" "x".toByteArray, .write "./B" "y".toByteArray,
    .write "C" "z".toByteArray, .stamp "D" 40]
  have hcurrent : decision ∅ s = .ok .upToDate :=
    (decide_eq s t).trans (congrArg Except.ok (by decide +kernel))
  have hfirst : FirstOf (· ∈ marked) t.deps "A" :=
    ⟨["B"], ["B"], rfl, by decide +kernel, by decide +kernel⟩
  have houtput : s.fileOf? "." t.name = some ⟨"z".toByteArray, 3⟩ :=
    Store.get?_eq_some_iff.mpr ⟨by decide +kernel, by decide +kernel⟩
  have hunmoved : (s.apply (.stamp "B" 90)).fileOf? "." t.name = some ⟨"z".toByteArray, 3⟩ :=
    (Store.get?_apply_of_not_concerns (by decide +kernel)).trans houtput
  have hdated : (s.apply (.stamp "B" 90)).fileOf? "." "B" = some ⟨"y".toByteArray, 90⟩ :=
    Store.get?_eq_some_iff.mpr ⟨by decide +kernel, by decide +kernel⟩
  obtain ⟨_, _, hunrelated, hremove, hdependency, _⟩ := decision_reacts "." edits ∅ t
  obtain ⟨_, hmarks, _, _, _, _, hrebuilt, _⟩ := decision_reacts "." edits marked t
  obtain ⟨_, _, _, _, _, houtputWritten, _⟩ := decision_reacts "." (edits ++ [.write "A" "x".toByteArray]) ∅ t
  obtain ⟨_, _, _, _, _, _, _, hnewer⟩ := decision_reacts "." (edits ++ [.stamp "B" 90]) ∅ t
  have hmarked : decision marked s = .ok (.dependencyRebuilt "A") := (hrebuilt "A").mpr ⟨⟨_, houtput⟩, hfirst⟩
  have hstale : decision marked s ≠ .ok .upToDate := by
    rw [hmarked]
    exact fun h => nomatch h
  have hlater : FirstOf (Later "." (s.apply (.stamp "B" 90)) ⟨"z".toByteArray, 3⟩) t.deps "B" :=
    ⟨[], ["A", "B"], rfl, ⟨_, hdated, by decide +kernel⟩, fun _ h => nomatch h⟩
  refine ⟨hcurrent, hmarked, hmarks _ hstale, hunrelated _ (by decide +kernel),
    hremove "A/" (by decide +kernel) hcurrent,
    hdependency "./A" _ ⟨"A", by decide +kernel, by decide +kernel⟩ (by decide +kernel),
    (houtputWritten "C/." _ (by decide +kernel)).mpr (by decide +kernel),
    (hnewer "B").mpr ⟨_, hunmoved, by decide +kernel, hlater⟩⟩

end Rebuild.Staleness
