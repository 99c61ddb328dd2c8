import Mathlib.Data.List.Basic
import Rebuild.Rule.Validation

/-!
# What checked rules say

A rule that holds on its own has the sections of its target (`RawRule.target_eq_ok_iff`). Rules that are checked in
order hold exactly if each holds on its own and no two of them, nor one of them and an earlier one, have the same name
(`targetsOfRawRules_eq_ok_iff`). So the rules of a set are those that were written, one by one (`ofRawRules_eq_ok_iff`).
-/

namespace Rebuild

/-- In a table that has no name twice a name is looked up to all that stands beside it. -/
theorem lookup_eq_some_iff_mem {α : Type} {table : List (Name × α)} (h : (table.map Prod.fst).Nodup) {name : Name}
    {value : α} : table.lookup name = some value ↔ (name, value) ∈ table := by
  induction table with
  | nil => simp
  | cons entry table ih =>
    obtain ⟨key, first⟩ := entry
    obtain ⟨hnew, hnodup⟩ := List.nodup_cons.mp h
    rw [List.lookup_cons, List.mem_cons, ← ih hnodup]
    by_cases he : name = key
    · subst he
      have hother : table.lookup name ≠ some value := fun hl =>
        hnew (List.mem_map.mpr ⟨(name, value), (ih hnodup).mp hl, rfl⟩)
      simp [hother, eq_comm]
    · simp [he, beq_eq_false_iff_ne.mpr he]

/-- A rule that holds on its own has one target, a dependency and a command. -/
theorem RawRule.target_eq_ok_iff {rule : RawRule} {t : Target} : rule.target = .ok t ↔
    rule.targets = [t.name] ∧ rule.sources = t.deps ∧ rule.command = t.command ∧ t.deps ≠ [] := by
  obtain ⟨location, targets, sources, command⟩ := rule
  obtain ⟨name, deps, program, args⟩ := t
  constructor
  · intro h
    have hdeps := RawRule.deps_ne_nil_of_target h
    unfold RawRule.target at h
    split at h
    · cases h
    · cases h
    · next hname =>
      split at h
      · cases h
      · cases h
      · next hcommand =>
        cases h
        exact ⟨hname, rfl, hcommand, hdeps⟩
  · rintro ⟨hname, hdeps, hcommand, hne⟩
    dsimp only [Target.command] at hname hdeps hcommand hne
    obtain ⟨dep, rest, rfl⟩ := List.exists_cons_of_ne_nil hne
    rw [hname, hdeps, hcommand]
    rfl

namespace RuleSet

theorem targetsOfRawRules_cons {seen : List (Name × Location)} {rule : RawRule} {rules : List RawRule} {t : Target}
    (ht : rule.target = .ok t) (hnew : seen.lookup t.name = none) : targetsOfRawRules seen (rule :: rules) =
      (targetsOfRawRules ((t.name, rule.location) :: seen) rules).map (t :: ·) := by
  rw [targetsOfRawRules, ht]
  dsimp only
  rw [hnew]

/-- Rules hold if each holds on its own and has a name that neither another nor an earlier one has. -/
theorem targetsOfRawRules_eq_ok_iff {rules : List RawRule} {seen : List (Name × Location)} {ts : List Target} :
    targetsOfRawRules seen rules = .ok ts ↔
      rules.map RawRule.target = ts.map .ok ∧ (ts.map Target.name).Nodup ∧ ∀ t ∈ ts, seen.lookup t.name = none := by
  induction rules generalizing seen ts with
  | nil =>
    constructor
    · intro h; cases h; simp
    · rintro ⟨hts, -, -⟩
      rw [List.map_nil, eq_comm, List.map_eq_nil_iff] at hts
      rw [hts, targetsOfRawRules]
  | cons rule rules ih =>
    constructor
    · intro h
      refine ⟨?_, names_of_targetsOfRawRules h⟩
      unfold targetsOfRawRules at h
      split at h
      · cases h
      · next t ht =>
        split at h
        · cases h
        · cases hrest : targetsOfRawRules ((t.name, rule.location) :: seen) rules with
          | error malformed => rw [hrest] at h; cases h
          | ok rest =>
            rw [hrest] at h
            cases h
            rw [List.map_cons, List.map_cons, ht, (ih.mp hrest).1]
    · rintro ⟨hts, hnodup, hseen⟩
      obtain ⟨t, rest, rfl, ht, hrest⟩ := List.map_eq_cons_iff.mp hts.symm
      obtain ⟨hnew, hnodup⟩ := List.nodup_cons.mp hnodup
      obtain ⟨hfirst, hothers⟩ := List.forall_mem_cons.mp hseen
      have hok : targetsOfRawRules ((t.name, rule.location) :: seen) rules = .ok rest := by
        refine ih.mpr ⟨hrest.symm, hnodup, fun u hu => ?_⟩
        have hne : u.name ≠ t.name := fun he => hnew (List.mem_map.mpr ⟨u, hu, he⟩)
        rw [List.lookup_cons, beq_eq_false_iff_ne.mpr hne]
        exact hothers u hu
      rw [targetsOfRawRules_cons ht.symm hfirst, hok]
      rfl

/-- A rule set has the targets of the rules that it comes from. -/
theorem map_targets_ofRawRules (raws : List RawRule) : (ofRawRules raws).map targets = targetsOfRawRules [] raws := by
  unfold ofRawRules
  split
  · next malformed h => exact h.symm
  · next targets h => exact h.symm

/-- The rules of a set are those that were written. -/
theorem ofRawRules_eq_ok_iff {raws : List RawRule} {rules : RuleSet} :
    ofRawRules raws = .ok rules ↔ raws.map RawRule.target = rules.targets.map .ok := by
  have hiff : targetsOfRawRules [] raws = .ok rules.targets ↔ raws.map RawRule.target = rules.targets.map .ok := by
    rw [targetsOfRawRules_eq_ok_iff]
    exact ⟨And.left, fun h => ⟨h, rules.names_nodup, fun _ _ => rfl⟩⟩
  rw [← hiff]
  unfold ofRawRules
  constructor
  · intro hok
    split at hok
    · cases hok
    · next targets h => cases hok; exact h
  · intro hts
    split
    · next malformed h => rw [hts] at h; cases h
    · next targets h => exact congrArg _ (RuleSet.ext (Except.ok.inj (h.symm.trans hts)))

end RuleSet

end Rebuild
