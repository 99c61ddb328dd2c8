import Rebuild.Rule.Parser

/-!
# Checking rules

A written rule holds if it has one target, a dependency and a command, and if no earlier rule has its target.
`RuleSet.ofRawRules` checks the rules in order and refuses the first that does not hold.
-/

namespace Rebuild

namespace RawRule

/-- The target of a rule that is sound on its own. -/
def target (rule : RawRule) : Except Defect Target :=
  match rule.targets with
  | [] => .error .noTarget
  | first :: _ :: _ => .error (.severalTargets first rule.targets.length)
  | [name] =>
    match rule.sources, rule.command with
    | [], _ => .error (.noDependency name)
    | _ :: _, [] => .error (.noCommand name)
    | _ :: _, program :: args => .ok ⟨name, rule.sources, program, args⟩

/-- A rule that is sound on its own has a dependency. -/
theorem deps_ne_nil_of_target {rule : RawRule} {t : Target} (h : rule.target = .ok t) : t.deps ≠ [] := by
  unfold target at h
  split at h
  · cases h
  · cases h
  · split at h
    · cases h
    · cases h
    · next hs _ => cases h; simp [hs]

end RawRule

namespace RuleSet

/-- The targets of the rules in order, where `seen` holds the names that have a rule before them and its place. -/
def targetsOfRawRules (seen : List (Name × Location)) : List RawRule → Except Malformed (List Target)
  | [] => .ok []
  | rule :: rules =>
    match rule.target with
    | .error defect => .error ⟨rule.location, defect⟩
    | .ok t =>
      match seen.lookup t.name with
      | some first => .error ⟨rule.location, .duplicate t.name first⟩
      | none => (targetsOfRawRules ((t.name, rule.location) :: seen) rules).map (t :: ·)

/-- The targets have no name twice and none that was seen before. -/
theorem names_of_targetsOfRawRules {rules : List RawRule} : ∀ {seen : List (Name × Location)} {ts : List Target},
    targetsOfRawRules seen rules = .ok ts →
      (ts.map Target.name).Nodup ∧ ∀ t ∈ ts, seen.lookup t.name = none := by
  induction rules with
  | nil => intro seen ts h; cases h; simp
  | cons rule rules ih =>
    intro seen ts h
    unfold targetsOfRawRules at h
    split at h
    · cases h
    · next t ht =>
      split at h
      · cases h
      · next hseen =>
        cases hrest : targetsOfRawRules ((t.name, rule.location) :: seen) rules with
        | error e => rw [hrest] at h; cases h
        | ok rest =>
          rw [hrest] at h
          cases h
          obtain ⟨hnodup, hnew⟩ := ih hrest
          have hne : ∀ u ∈ rest, u.name ≠ t.name := fun u hu he => by
            have := hnew u hu
            rw [he, List.lookup_cons_self] at this
            cases this
          refine ⟨?_, fun u hu => ?_⟩
          · rw [List.map_cons, List.nodup_cons]
            refine ⟨fun hmem => ?_, hnodup⟩
            obtain ⟨u, hu, he⟩ := List.mem_map.mp hmem
            exact hne u hu he
          · rcases List.mem_cons.mp hu with rfl | hu
            · exact hseen
            · have := hnew u hu
              rwa [List.lookup_cons, beq_eq_false_iff_ne.mpr (hne u hu)] at this

/-- Every target has a dependency. -/
theorem deps_of_targetsOfRawRules {rules : List RawRule} : ∀ {seen : List (Name × Location)} {ts : List Target},
    targetsOfRawRules seen rules = .ok ts → ∀ t ∈ ts, t.deps ≠ [] := by
  induction rules with
  | nil => intro seen ts h; cases h; simp
  | cons rule rules ih =>
    intro seen ts h
    unfold targetsOfRawRules at h
    split at h
    · cases h
    · next t ht =>
      split at h
      · cases h
      · cases hrest : targetsOfRawRules ((t.name, rule.location) :: seen) rules with
        | error e => rw [hrest] at h; cases h
        | ok rest =>
          rw [hrest] at h
          cases h
          intro u hu
          rcases List.mem_cons.mp hu with rfl | hu
          · exact RawRule.deps_ne_nil_of_target ht
          · exact ih hrest u hu

/-- The rule set that the rules spell, or the first of them that does not hold. -/
def ofRawRules (rules : List RawRule) : Except Malformed RuleSet :=
  match h : targetsOfRawRules [] rules with
  | .error malformed => .error malformed
  | .ok targets => .ok ⟨targets, (names_of_targetsOfRawRules h).1, deps_of_targetsOfRawRules h⟩

/-- The origin of a text that comes from no file. -/
def inlineOrigin : String := "<rules>"

/-- The rule set that a text spells. -/
def ofText (text : String) : Except Malformed RuleSet :=
  RawRule.ofText text inlineOrigin >>= ofRawRules

end RuleSet

end Rebuild
