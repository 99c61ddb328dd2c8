import Mathlib.Data.List.Perm.Basic
import Rebuild.Proofs.Except
import Rebuild.Proofs.Toml.Tables
import Rebuild.Settings

/-!
# What a settings document sets

The keys of a document are looked at one after the other, in the order of their names, but since none comes twice the
order makes no difference to what is set: a document gives settings exactly if each of its keys is known and has a value
of its type, and no rule file is blank (`SetBy`, `ofToml_eq_ok_iff`). Otherwise the fault is that of the first key, in
this order, that has one of its own, and a blank rule file counts only where no key has one (`ofToml_eq_error_iff`).
-/

namespace Rebuild.Settings

/-! ## One key -/

/-- The fault that an entry has of its own, whatever else is set. -/
def faultOf? (entry : String × Toml.Value) : Option Fault :=
  match add ⟨[], none⟩ entry with
  | .ok _ => none
  | .error fault => some fault

section

variable {s s' : Settings} {entry : String × Toml.Value} {fault : Fault}

theorem add_of_rules (h : entry.1 = "rules") :
    s.add entry = (rulesOf entry.2).map fun rules => { s with rules } := by
  unfold add
  split
  · rfl
  · next hlevel => exact absurd (h.symm.trans hlevel) (by decide)
  · next hrules _ => exact absurd h hrules

theorem add_of_level (h : entry.1 = "log_level") :
    s.add entry = (levelOf entry.2).map fun level => { s with logLevel := some level } := by
  unfold add
  split
  · next hrules => exact absurd (hrules.symm.trans h) (by decide)
  · rfl
  · next _ hlevel => exact absurd h hlevel

theorem add_of_unknown (hrules : entry.1 ≠ "rules") (hlevel : entry.1 ≠ "log_level") :
    s.add entry = .error (.unknownKey entry.1) := by
  unfold add
  split
  · next h => exact absurd h hrules
  · next h => exact absurd h hlevel
  · rfl

/-- An entry sets the rule files or the level. -/
theorem add_eq_ok_iff : s.add entry = .ok s' ↔
    (entry.1 = "rules" ∧ ∃ rules, rulesOf entry.2 = .ok rules ∧ { s with rules } = s') ∨
      (entry.1 = "log_level" ∧ ∃ level, levelOf entry.2 = .ok level ∧ { s with logLevel := some level } = s') := by
  by_cases hrules : entry.1 = "rules"
  · rw [add_of_rules hrules, Except.map_eq_ok_iff]
    simp [hrules]
  · by_cases hlevel : entry.1 = "log_level"
    · rw [add_of_level hlevel, Except.map_eq_ok_iff]
      simp [hlevel]
    · rw [add_of_unknown hrules hlevel]
      simp [hrules, hlevel]

/-- Whether an entry has a fault does not depend on what is set. -/
theorem add_eq_error_iff : s.add entry = .error fault ↔ faultOf? entry = some fault := by
  have hall (s : Settings) : s.add entry = .error fault ↔ (⟨[], none⟩ : Settings).add entry = .error fault := by
    by_cases hrules : entry.1 = "rules"
    · rw [add_of_rules hrules, add_of_rules hrules, Except.map_eq_error_iff, Except.map_eq_error_iff]
    · by_cases hlevel : entry.1 = "log_level"
      · rw [add_of_level hlevel, add_of_level hlevel, Except.map_eq_error_iff, Except.map_eq_error_iff]
      · rw [add_of_unknown hrules hlevel, add_of_unknown hrules hlevel]
  rw [hall, faultOf?]
  cases (⟨[], none⟩ : Settings).add entry <;> simp

theorem faultOf?_eq_none_iff : faultOf? entry = none ↔ ∃ s', s.add entry = .ok s' := by
  cases h : s.add entry with
  | error fault => simp [add_eq_error_iff.mp h]
  | ok s' =>
    refine iff_of_true ?_ ⟨s', rfl⟩
    cases hf : faultOf? entry with
    | none => rfl
    | some fault => rw [add_eq_error_iff.mpr hf] at h; cases h

end

/-! ## All keys -/

/-- What entries set, where other settings were there before. -/
structure SetBy (entries : Toml.Entries) (start s : Settings) : Prop where
  known : ∀ e ∈ entries, e.1 = "rules" ∨ e.1 = "log_level"
  rules : ∀ v, ("rules", v) ∈ entries → rulesOf v = .ok s.rules
  level : ∀ v, ("log_level", v) ∈ entries → ∃ level, levelOf v = .ok level ∧ s.logLevel = some level
  noRules : (∀ v, ("rules", v) ∉ entries) → s.rules = start.rules
  noLevel : (∀ v, ("log_level", v) ∉ entries) → s.logLevel = start.logLevel

theorem setBy_nil_iff {start s : Settings} : SetBy [] start s ↔ s = start := by
  constructor
  · intro h
    cases s; cases start
    obtain rfl := h.noRules (by simp)
    obtain rfl := h.noLevel (by simp)
    rfl
  · rintro rfl
    exact ⟨by simp, by simp, by simp, fun _ => rfl, fun _ => rfl⟩

/-- Entries in another order set the same. -/
theorem SetBy.perm {entries entries' : Toml.Entries} {start s : Settings} (h : SetBy entries start s)
    (hperm : entries.Perm entries') : SetBy entries' start s where
  known e he := h.known e (hperm.mem_iff.mpr he)
  rules v hv := h.rules v (hperm.mem_iff.mpr hv)
  level v hv := h.level v (hperm.mem_iff.mpr hv)
  noRules hno := h.noRules fun v hv => hno v (hperm.mem_iff.mp hv)
  noLevel hno := h.noLevel fun v hv => hno v (hperm.mem_iff.mp hv)

section

variable {entries : Toml.Entries} {v : Toml.Value} {start s : Settings}

/-- Rule files before entries that set none are those that are set. -/
theorem setBy_rules_cons_iff (hnew : ∀ v, ("rules", v) ∉ entries) : SetBy (("rules", v) :: entries) start s ↔
    ∃ rules, rulesOf v = .ok rules ∧ SetBy entries { start with rules } s := by
  constructor
  · intro h
    exact ⟨s.rules, h.rules v List.mem_cons_self,
      { known := fun e he => h.known e (List.mem_cons_of_mem _ he)
        rules := fun v hv => h.rules v (List.mem_cons_of_mem _ hv)
        level := fun v hv => h.level v (List.mem_cons_of_mem _ hv)
        noRules := fun _ => rfl
        noLevel := fun hno => h.noLevel (by simpa using hno) }⟩
  · rintro ⟨rules, hset, h⟩
    have hs : s.rules = rules := h.noRules hnew
    exact
      { known := List.forall_mem_cons.mpr ⟨Or.inl rfl, h.known⟩
        rules := by simpa [hs, hset] using fun w hw => absurd hw (hnew w)
        level := by simpa using h.level
        noRules := fun hno => absurd List.mem_cons_self (hno v)
        noLevel := fun hno => h.noLevel (by simpa using hno) }

/-- So with the level. -/
theorem setBy_level_cons_iff (hnew : ∀ v, ("log_level", v) ∉ entries) : SetBy (("log_level", v) :: entries) start s ↔
    ∃ level, levelOf v = .ok level ∧ SetBy entries { start with logLevel := some level } s := by
  constructor
  · intro h
    obtain ⟨level, hset, hs⟩ := h.level v List.mem_cons_self
    exact ⟨level, hset,
      { known := fun e he => h.known e (List.mem_cons_of_mem _ he)
        rules := fun v hv => h.rules v (List.mem_cons_of_mem _ hv)
        level := fun v hv => h.level v (List.mem_cons_of_mem _ hv)
        noRules := fun hno => h.noRules (by simpa using hno)
        noLevel := fun _ => hs }⟩
  · rintro ⟨level, hset, h⟩
    have hs : s.logLevel = some level := h.noLevel hnew
    exact
      { known := List.forall_mem_cons.mpr ⟨Or.inr rfl, h.known⟩
        rules := by simpa using h.rules
        level := by simpa [hs, hset] using fun w hw => absurd hw (hnew w)
        noRules := fun hno => h.noRules (by simpa using hno)
        noLevel := fun hno => absurd List.mem_cons_self (hno v) }

/-- A first entry, and others with other keys, set what the first and then the others set. -/
theorem setBy_cons_iff {entry : String × Toml.Value} (hnew : entry.1 ∉ entries.map Prod.fst) :
    SetBy (entry :: entries) start s ↔ ∃ next, start.add entry = .ok next ∧ SetBy entries next s := by
  obtain ⟨key, v⟩ := entry
  have hother (w : Toml.Value) : (key, w) ∉ entries := fun hw => hnew (List.mem_map.mpr ⟨_, hw, rfl⟩)
  by_cases hrules : key = "rules"
  · subst hrules
    rw [setBy_rules_cons_iff hother, add_of_rules rfl]
    simp [Except.map_eq_ok_iff]
  · by_cases hlevel : key = "log_level"
    · subst hlevel
      rw [setBy_level_cons_iff hother, add_of_level rfl]
      simp [Except.map_eq_ok_iff]
    · rw [add_of_unknown hrules hlevel]
      refine iff_of_false (fun h => ?_) (by simp)
      exact (h.known (key, v) List.mem_cons_self).elim hrules hlevel

end

/-- Entries with different keys are looked at to the end exactly if they set something. -/
theorem foldlM_add_eq_ok_iff {entries : Toml.Entries} (hkeys : (entries.map Prod.fst).Nodup) {start s : Settings} :
    entries.foldlM add start = .ok s ↔ SetBy entries start s := by
  induction entries generalizing start with
  | nil =>
    rw [setBy_nil_iff, eq_comm]
    exact ⟨fun h => by cases h; rfl, fun h => by rw [h]; rfl⟩
  | cons entry entries ih =>
    obtain ⟨hnew, hkeys⟩ := List.nodup_cons.mp hkeys
    rw [setBy_cons_iff hnew, List.foldlM_cons]
    cases hadd : start.add entry with
    | error fault => simp [bind, Except.bind]
    | ok next => simpa [bind, Except.bind] using ih hkeys

/-- The fault of the first entry that has one is that of all. -/
theorem foldlM_add_eq_error_iff {entries : Toml.Entries} {start : Settings} {fault : Fault} :
    entries.foldlM add start = .error fault ↔ ∃ before entry after, entries = before ++ entry :: after ∧
      (∀ e ∈ before, faultOf? e = none) ∧ faultOf? entry = some fault := by
  induction entries generalizing start with
  | nil => simp [pure, Except.pure]
  | cons entry entries ih =>
    rw [List.foldlM_cons]
    cases hadd : start.add entry with
    | error fault' =>
      have hfirst := add_eq_error_iff.mp hadd
      simp only [bind, Except.bind, Except.error.injEq]
      constructor
      · rintro rfl
        exact ⟨[], entry, entries, rfl, by simp, hfirst⟩
      · rintro ⟨before, e, after, he, hbefore, hfault⟩
        cases before with
        | nil =>
          obtain ⟨rfl, _⟩ := List.cons.inj he
          exact Option.some.inj (hfirst.symm.trans hfault)
        | cons first before =>
          obtain ⟨rfl, _⟩ := List.cons.inj he
          rw [hbefore _ List.mem_cons_self] at hfirst
          cases hfirst
    | ok next =>
      have hfirst : faultOf? entry = none := faultOf?_eq_none_iff.mpr ⟨next, hadd⟩
      refine ih.trans ?_
      constructor
      · rintro ⟨before, e, after, rfl, hbefore, hfault⟩
        exact ⟨entry :: before, e, after, rfl, List.forall_mem_cons.mpr ⟨hfirst, hbefore⟩, hfault⟩
      · rintro ⟨before, e, after, he, hbefore, hfault⟩
        cases before with
        | nil =>
          obtain ⟨rfl, _⟩ := List.cons.inj he
          rw [hfirst] at hfault
          cases hfault
        | cons first before =>
          obtain ⟨_, rfl⟩ := List.cons.inj he
          exact ⟨before, e, after, rfl, (List.forall_mem_cons.mp hbefore).2, hfault⟩

/-! ## Documents -/

/-- The entries of a document in the order in which they are looked at. -/
def inOrder (entries : Toml.Entries) : Toml.Entries :=
  entries.mergeSort fun a b => (compare a.1 b.1).isLE

theorem perm_inOrder (entries : Toml.Entries) : (inOrder entries).Perm entries :=
  List.mergeSort_perm _ _

theorem pairwise_inOrder (entries : Toml.Entries) :
    (inOrder entries).Pairwise fun a b => (compare a.1 b.1).isLE = true := by
  refine List.pairwise_mergeSort (fun _ _ _ => Std.TransCmp.isLE_trans) (fun a b => ?_) entries
  rw [Bool.or_eq_true]
  cases h : compare a.1 b.1 with
  | lt => exact Or.inl rfl
  | eq => exact Or.inl rfl
  | gt => exact Or.inr (by rw [Std.OrientedCmp.lt_of_gt h]; rfl)

/-- What comes before an entry, among others with other keys, is what has a lesser key. -/
theorem mem_before_iff {entries before after : Toml.Entries} {entry e : String × Toml.Value}
    (hkeys : (entries.map Prod.fst).Nodup) (h : inOrder entries = before ++ entry :: after) :
    e ∈ before ↔ e ∈ entries ∧ compare e.1 entry.1 = .lt := by
  have hpairs := pairwise_inOrder entries
  have hnodup := ((perm_inOrder entries).map Prod.fst).nodup_iff.mpr hkeys
  rw [h, List.pairwise_append, List.pairwise_cons] at hpairs
  rw [h, List.map_append, List.map_cons, List.nodup_append] at hnodup
  obtain ⟨_, ⟨hafter, _⟩, hbefore⟩ := hpairs
  rw [← (perm_inOrder entries).mem_iff, h]
  constructor
  · intro he
    refine ⟨List.mem_append_left _ he, ?_⟩
    have hle := hbefore e he entry List.mem_cons_self
    have hne : e.1 ≠ entry.1 := hnodup.2.2 e.1 (List.mem_map_of_mem he) entry.1 List.mem_cons_self
    cases hc : compare e.1 entry.1 with
    | lt => rfl
    | eq => exact absurd (Std.LawfulEqCmp.eq_of_compare hc) hne
    | gt => rw [hc] at hle; cases hle
  · rintro ⟨he, hlt⟩
    rcases List.mem_append.mp he with he | he
    · exact he
    · exfalso
      rcases List.mem_cons.mp he with rfl | he
      · exact absurd (hlt.symm.trans Std.ReflCmp.compare_self) (by decide)
      · have hle := hafter e he
        rw [Std.OrientedCmp.gt_of_lt hlt] at hle
        cases hle

/-- The settings that a document gives before its rule files are looked at. -/
theorem foldlM_inOrder_eq_ok_iff {entries : Toml.Entries} (hkeys : (entries.map Prod.fst).Nodup) {s : Settings} :
    (inOrder entries).foldlM add ⟨[], none⟩ = .ok s ↔ SetBy entries ⟨[], none⟩ s := by
  have hperm := perm_inOrder entries
  rw [foldlM_add_eq_ok_iff ((hperm.map Prod.fst).nodup_iff.mpr hkeys)]
  exact ⟨fun h => h.perm hperm, fun h => h.perm hperm.symm⟩

theorem foldlM_inOrder_eq_error_iff {entries : Toml.Entries} (hkeys : (entries.map Prod.fst).Nodup) {fault : Fault} :
    (inOrder entries).foldlM add ⟨[], none⟩ = .error fault ↔ ∃ entry ∈ entries, faultOf? entry = some fault ∧
      ∀ e ∈ entries, compare e.1 entry.1 = .lt → faultOf? e = none := by
  rw [foldlM_add_eq_error_iff]
  constructor
  · rintro ⟨before, entry, after, h, hbefore, hfault⟩
    refine ⟨entry, (perm_inOrder entries).mem_iff.mp (by rw [h]; simp), hfault, fun e he hlt => ?_⟩
    exact hbefore e ((mem_before_iff hkeys h).mpr ⟨he, hlt⟩)
  · rintro ⟨entry, hmem, hfault, hless⟩
    obtain ⟨before, after, h⟩ := List.append_of_mem ((perm_inOrder entries).mem_iff.mpr hmem)
    refine ⟨before, entry, after, h, fun e he => ?_, hfault⟩
    obtain ⟨he, hlt⟩ := (mem_before_iff hkeys h).mp he
    exact hless e he hlt

theorem ofToml_of_entries {text : String} {entries : Toml.Entries} (h : Toml.entries? text = some entries) :
    ofToml text = match (inOrder entries).foldlM add ⟨[], none⟩ with
      | .error fault => .error fault
      | .ok s => if s.rules.any Text.isBlankText then .error .blankRule else .ok s := by
  unfold ofToml
  rw [h]
  show Except.bind ((inOrder entries).foldlM add ⟨[], none⟩) _ = _
  cases (inOrder entries).foldlM add ⟨[], none⟩ <;> rfl

/-- **What a document sets.** A document gives settings exactly if it is well-formed, each of its keys is known and has
a value of its type, these values are what is set, and no rule file is blank. -/
theorem ofToml_eq_ok_iff {text : String} {s : Settings} : ofToml text = .ok s ↔
    ∃ entries, Toml.entries? text = some entries ∧ SetBy entries ⟨[], none⟩ s ∧
      ∀ rule ∈ s.rules, Text.isBlankText rule = false := by
  cases h : Toml.entries? text with
  | none => simp [ofToml, h]
  | some entries =>
    have hkeys := (Toml.distinctKeys_of_entries? h).keys
    rw [ofToml_of_entries h]
    constructor
    · intro hs
      split at hs
      · cases hs
      · next s' hfold =>
        split at hs
        · cases hs
        · next hblank =>
          cases hs
          exact ⟨entries, rfl, (foldlM_inOrder_eq_ok_iff hkeys).mp hfold, by simpa using hblank⟩
    · rintro ⟨_, he, hset, hblank⟩
      cases he
      rw [(foldlM_inOrder_eq_ok_iff hkeys).mpr hset]
      dsimp only
      rw [if_neg (by simpa using hblank)]

/-- **Which fault of a document counts.** A document gives no settings exactly if it is not well-formed, or a key has a
fault of its own, and then that of the first such key counts, or else a rule file is blank. -/
theorem ofToml_eq_error_iff {text : String} {fault : Fault} : ofToml text = .error fault ↔
    (Toml.entries? text = none ∧ fault = .malformed) ∨ ∃ entries, Toml.entries? text = some entries ∧
      ((∃ entry ∈ entries, faultOf? entry = some fault ∧
          ∀ e ∈ entries, compare e.1 entry.1 = .lt → faultOf? e = none) ∨
        ∃ s, SetBy entries ⟨[], none⟩ s ∧ fault = .blankRule ∧ ∃ rule ∈ s.rules, Text.isBlankText rule = true) := by
  cases h : Toml.entries? text with
  | none =>
    simp only [ofToml, h, Except.error.injEq, true_and, reduceCtorEq, false_and, exists_false, or_false]
    exact eq_comm
  | some entries =>
    have hkeys := (Toml.distinctKeys_of_entries? h).keys
    rw [ofToml_of_entries h]
    simp only [reduceCtorEq, false_and, false_or, Option.some.injEq, exists_eq_left']
    rw [← foldlM_inOrder_eq_error_iff hkeys]
    simp only [← foldlM_inOrder_eq_ok_iff hkeys]
    cases hfold : (inOrder entries).foldlM add ⟨[], none⟩ with
    | error fault' => simp
    | ok s =>
      dsimp only
      constructor
      · intro hs
        split at hs
        · next hblank => cases hs; exact Or.inr ⟨s, rfl, rfl, List.any_eq_true.mp hblank⟩
        · cases hs
      · rintro (hs | ⟨_, hs, rfl, hblank⟩)
        · cases hs
        · cases hs
          rw [if_pos (List.any_eq_true.mpr hblank)]

end Rebuild.Settings
