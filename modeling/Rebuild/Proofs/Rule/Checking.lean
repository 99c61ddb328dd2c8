import Mathlib.Data.List.Forall2
import Std.Data.ExtTreeMap
import Rebuild.Proofs.Graph.OfRules
import Rebuild.Proofs.Rule.Validation

/-!
# Which rules are accepted

- A rule has a target exactly if it is well-formed (`RawRule.exists_target_iff`), and otherwise the first of its checks
  that fails tells what is wrong with it (`RawRule.target_eq_error_iff`);
- rules in order are refused at one of them, after those before it were accepted
  (`RuleSet.targetsOfRawRules_eq_error_iff`), for what is wrong with it alone or because one of those before it, and no
  other, has its name (`RuleSet.lookup_places_iff`);
- so they make up a set exactly if each is well-formed and no two have the same name (`RuleSet.exists_ofRawRules_iff`);
- a name is looked up to its target, also by the position that the set has for it (`RuleSet.map_getElem?_index`).

Together: `rules_checked_in_order`.
-/

namespace Rebuild

/-! ## One rule -/

/-- One target, at least one dependency and at least one word of a command. -/
def RawRule.WellFormed (rule : RawRule) : Prop :=
  rule.targets.length = 1 ∧ rule.sources ≠ [] ∧ rule.command ≠ []

instance (rule : RawRule) : Decidable rule.WellFormed :=
  inferInstanceAs (Decidable (_ ∧ _ ∧ _))

/-- Whether a target holds just what a rule says. -/
def RawRule.Yields (rule : RawRule) (t : Target) : Prop :=
  rule.targets = [t.name] ∧ rule.sources = t.deps ∧ rule.command = t.program :: t.args

/-- What is wrong with a rule on its own: the first check that it fails. -/
inductive Defect.Flaws (rule : RawRule) : Defect → Prop where
  | noTarget (ht : rule.targets = []) : Flaws rule .noTarget
  | severalTargets {first second : Name} {more : List Name} (ht : rule.targets = first :: second :: more) :
    Flaws rule (.severalTargets first rule.targets.length)
  | noDependency {name : Name} (ht : rule.targets = [name]) (hs : rule.sources = []) :
    Flaws rule (.noDependency name)
  | noCommand {name : Name} (ht : rule.targets = [name]) (hs : rule.sources ≠ []) (hc : rule.command = []) :
    Flaws rule (.noCommand name)

namespace RawRule

variable {rule : RawRule} {defect : Defect}

theorem exists_target_iff : (∃ t, rule.target = .ok t) ↔ rule.WellFormed := by
  simp only [target_eq_ok_iff]
  constructor
  · rintro ⟨t, ht, hs, hc, hne⟩
    exact ⟨by rw [ht]; rfl, hs ▸ hne, by rw [hc]; exact List.cons_ne_nil _ _⟩
  · rintro ⟨ht, hs, hc⟩
    obtain ⟨name, ht⟩ := List.length_eq_one_iff.mp ht
    obtain ⟨program, args, hc⟩ := List.exists_cons_of_ne_nil hc
    exact ⟨⟨name, rule.sources, program, args⟩, ht, rfl, hc, hs⟩

theorem target_eq_error_iff : rule.target = .error defect ↔ defect.Flaws rule := by
  obtain ⟨location, targets, sources, command⟩ := rule
  constructor
  · intro h
    unfold target at h
    split at h
    · next ht => cases h; exact .noTarget ht
    · next ht => cases h; exact .severalTargets ht
    · next ht =>
      split at h
      · next hs => cases h; exact .noDependency ht hs
      · next hs hc => cases h; exact .noCommand ht (by rw [hs]; exact List.cons_ne_nil _ _) hc
      · cases h
  · intro h
    cases h with
    | noTarget ht => cases ht; rfl
    | severalTargets ht => cases ht; rfl
    | noDependency ht hs => cases ht; cases hs; rfl
    | noCommand ht hs hc =>
      cases ht
      cases hc
      obtain ⟨dep, deps, rfl⟩ := List.exists_cons_of_ne_nil hs
      rfl

theorem not_wellFormed_of_flaws (h : defect.Flaws rule) : ¬ rule.WellFormed := by
  intro hw
  obtain ⟨t, ht⟩ := exists_target_iff.mpr hw
  rw [target_eq_error_iff.mpr h] at ht
  cases ht

theorem WellFormed.mem_targets_iff (h : rule.WellFormed) {name : Name} :
    name ∈ rule.targets ↔ rule.targets = [name] := by
  obtain ⟨only, honly⟩ := List.length_eq_one_iff.mp h.1
  rw [honly, List.mem_singleton]
  simp [eq_comm]

end RawRule

/-! ## Rules in order -/

/-- What is wrong with a rule that comes after others: what is wrong with it on its own, or the one rule before it that
has its name. -/
inductive Defect.Refuses (before : List RawRule) (rule : RawRule) : Defect → Prop where
  | flaw {defect : Defect} (h : defect.Flaws rule) : Refuses before rule defect
  | duplicate {name : Name} {earlier : RawRule} (hw : rule.WellFormed) (ht : rule.targets = [name])
    (honly : before.filter (·.targets == [name]) = [earlier]) :
    Refuses before rule (.duplicate name earlier.location)

namespace RuleSet

/-- Each rule is well-formed, and no two have the same name. -/
def Acceptable (raws : List RawRule) : Prop :=
  (∀ rule ∈ raws, rule.WellFormed) ∧ (raws.flatMap RawRule.targets).Nodup

instance (raws : List RawRule) : Decidable (Acceptable raws) :=
  inferInstanceAs (Decidable (_ ∧ _))

/-- The names of rules, each with the place of its rule. -/
def places (raws : List RawRule) : List (Name × Location) :=
  raws.flatMap fun rule => rule.targets.map (·, rule.location)

variable {raws before after : List RawRule} {rule : RawRule} {seen : List (Name × Location)} {ts : List Target}
  {m : Malformed} {rules : RuleSet} {name : Name} {location : Location}

/-- How a rule is refused where these names have been seen. -/
inductive Stops (seen : List (Name × Location)) (rule : RawRule) : Malformed → Prop where
  | flaw {defect : Defect} (h : rule.target = .error defect) : Stops seen rule ⟨rule.location, defect⟩
  | duplicate {t : Target} {first : Location} (ht : rule.target = .ok t) (hfirst : seen.lookup t.name = some first) :
    Stops seen rule ⟨rule.location, .duplicate t.name first⟩

theorem targetsOfRawRules_of_stops (h : Stops seen rule m) (raws : List RawRule) :
    targetsOfRawRules seen (rule :: raws) = .error m := by
  cases h with
  | flaw ht => rw [targetsOfRawRules, ht]
  | duplicate ht hfirst =>
    rw [targetsOfRawRules, ht]
    dsimp only
    rw [hfirst]

/-- A rule is refused, or it is accepted and the others are checked after it. -/
theorem stops_or_accepted (seen : List (Name × Location)) (rule : RawRule) : (∃ m, Stops seen rule m) ∨
    ∃ t, ∀ raws, targetsOfRawRules seen (rule :: raws) =
      (targetsOfRawRules ((places [rule]).reverse ++ seen) raws).map (t :: ·) := by
  cases ht : rule.target with
  | error defect => exact Or.inl ⟨_, .flaw ht⟩
  | ok t =>
    cases hseen : seen.lookup t.name with
    | some first => exact Or.inl ⟨_, .duplicate ht hseen⟩
    | none =>
      have hplaces : places [rule] = [(t.name, rule.location)] := by
        simp [places, (RawRule.target_eq_ok_iff.mp ht).1]
      exact Or.inr ⟨t, fun raws => by rw [targetsOfRawRules_cons ht hseen, hplaces]; rfl⟩

theorem reverse_places_cons (rule : RawRule) (raws : List RawRule) (seen : List (Name × Location)) :
    (places (rule :: raws)).reverse ++ seen = (places raws).reverse ++ ((places [rule]).reverse ++ seen) := by
  simp [places]

/-- Rules are refused at one of them, after those before it were accepted. -/
theorem targetsOfRawRules_eq_error_iff : targetsOfRawRules seen raws = .error m ↔
    ∃ before rule after ts, raws = before ++ rule :: after ∧ targetsOfRawRules seen before = .ok ts ∧
      Stops ((places before).reverse ++ seen) rule m := by
  constructor
  · intro h
    -- the names seen grow by those of each rule that is accepted
    induction raws generalizing seen with
    | nil => cases h
    | cons rule raws ih =>
      rcases stops_or_accepted seen rule with ⟨m', hstops⟩ | ⟨t, haccepted⟩
      · rw [targetsOfRawRules_of_stops hstops] at h
        cases h
        exact ⟨[], rule, raws, [], rfl, rfl, hstops⟩
      · rw [haccepted] at h
        cases hrest : targetsOfRawRules ((places [rule]).reverse ++ seen) raws with
        | ok rest => rw [hrest] at h; cases h
        | error m' =>
          rw [hrest] at h
          cases h
          obtain ⟨before, stopped, after, ts, rfl, hok, hstops⟩ := ih hrest
          refine ⟨rule :: before, stopped, after, t :: ts, rfl, by rw [haccepted, hok]; rfl, ?_⟩
          rwa [reverse_places_cons]
  · rintro ⟨before, rule, after, ts, rfl, hok, hstops⟩
    induction before generalizing seen ts with
    | nil => exact targetsOfRawRules_of_stops hstops after
    | cons first before ih =>
      rcases stops_or_accepted seen first with ⟨m', hfirst⟩ | ⟨t, haccepted⟩
      · rw [targetsOfRawRules_of_stops hfirst] at hok
        cases hok
      · rw [haccepted] at hok
        rw [List.cons_append, haccepted]
        cases hrest : targetsOfRawRules ((places [first]).reverse ++ seen) before with
        | error m' => rw [hrest] at hok; cases hok
        | ok rest =>
          rw [reverse_places_cons] at hstops
          rw [ih rest hrest hstops]
          rfl

/-! ## Which names have been seen -/

theorem map_fst_places (raws : List RawRule) : (places raws).map Prod.fst = raws.flatMap RawRule.targets := by
  simp [places, List.map_flatMap, Function.comp_def]

theorem mem_places :
    (name, location) ∈ places raws ↔ ∃ rule ∈ raws, name ∈ rule.targets ∧ rule.location = location := by
  simp [places]

theorem filter_eq_nil (h : name ∉ raws.flatMap RawRule.targets) : raws.filter (·.targets == [name]) = [] := by
  refine List.filter_eq_nil_iff.mpr fun rule hrule hname => h (List.mem_flatMap.mpr ⟨rule, hrule, ?_⟩)
  rw [eq_of_beq hname]
  exact List.mem_singleton_self name

/-- Of rules that are acceptable together, only one has the name of a rule. -/
theorem filter_eq_singleton (h : Acceptable raws) (hr : rule ∈ raws) (ht : rule.targets = [name]) :
    raws.filter (·.targets == [name]) = [rule] := by
  obtain ⟨earlier, later, rfl⟩ := List.append_of_mem hr
  have hnodup := h.2
  rw [List.flatMap_append, List.flatMap_cons, ht, List.singleton_append, List.nodup_middle] at hnodup
  obtain ⟨hnew, _⟩ := List.nodup_cons.mp hnodup
  rw [List.mem_append, not_or] at hnew
  rw [List.filter_append, List.filter_cons_of_pos (by rw [ht]; exact beq_self_eq_true _), filter_eq_nil hnew.1,
    filter_eq_nil hnew.2]
  rfl

/-- The place seen for a name is that of the one rule that has it. -/
theorem lookup_places_iff (h : Acceptable before) : (places before).reverse.lookup name = some location ↔
    ∃ earlier, before.filter (·.targets == [name]) = [earlier] ∧ earlier.location = location := by
  have hkeys : ((places before).reverse.map Prod.fst).Nodup := by
    rw [List.map_reverse, List.nodup_reverse, map_fst_places]
    exact h.2
  rw [lookup_eq_some_iff_mem hkeys, List.mem_reverse, mem_places]
  constructor
  · rintro ⟨earlier, hmem, hname, rfl⟩
    exact ⟨earlier, filter_eq_singleton h hmem ((h.1 earlier hmem).mem_targets_iff.mp hname), rfl⟩
  · rintro ⟨earlier, honly, rfl⟩
    obtain ⟨hmem, hname⟩ := List.mem_filter.mp (honly ▸ List.mem_singleton_self earlier)
    exact ⟨earlier, hmem, (h.1 earlier hmem).mem_targets_iff.mpr (eq_of_beq hname), rfl⟩

/-- A rule that comes after acceptable rules is refused at its own place, for a reason that these and it tell. -/
theorem stops_iff (h : Acceptable before) : Stops (places before).reverse rule m ↔
    m.location = rule.location ∧ m.defect.Refuses before rule := by
  constructor
  · intro hstops
    cases hstops with
    | flaw ht => exact ⟨rfl, .flaw (RawRule.target_eq_error_iff.mp ht)⟩
    | duplicate ht hfirst =>
      obtain ⟨earlier, honly, rfl⟩ := (lookup_places_iff h).mp hfirst
      exact ⟨rfl, .duplicate (RawRule.exists_target_iff.mp ⟨_, ht⟩) (RawRule.target_eq_ok_iff.mp ht).1 honly⟩
  · obtain ⟨place, defect⟩ := m
    rintro ⟨rfl, hrefuses⟩
    cases hrefuses with
    | flaw hflaw => exact .flaw (RawRule.target_eq_error_iff.mpr hflaw)
    | duplicate hw hname honly =>
      obtain ⟨t, ht⟩ := RawRule.exists_target_iff.mpr hw
      obtain rfl := (List.singleton_inj.mp ((RawRule.target_eq_ok_iff.mp ht).1.symm.trans hname))
      exact .duplicate ht ((lookup_places_iff h).mpr ⟨_, honly, rfl⟩)

/-! ## Rule sets -/

/-- The targets of a set hold what the rules say, one by one. -/
theorem forall₂_yields_of_ofRawRules (h : ofRawRules raws = .ok rules) :
    List.Forall₂ RawRule.Yields raws rules.targets := by
  have hall : List.Forall₂ (· = ·) (raws.map RawRule.target) (rules.targets.map .ok) := by
    rw [List.forall₂_eq_eq_eq]
    exact ofRawRules_eq_ok_iff.mp h
  rw [List.forall₂_map_left_iff, List.forall₂_map_right_iff] at hall
  refine hall.imp fun raw t ht => ?_
  obtain ⟨hname, hdeps, hcommand, _⟩ := RawRule.target_eq_ok_iff.mp ht
  exact ⟨hname, hdeps, hcommand⟩

theorem flatMap_targets_of_yields (h : List.Forall₂ RawRule.Yields raws ts) :
    raws.flatMap RawRule.targets = ts.map Target.name := by
  induction h with
  | nil => rfl
  | cons hyields _ ih => rw [List.flatMap_cons, hyields.1, ih]; rfl

theorem acceptable_of_ofRawRules (h : ofRawRules raws = .ok rules) : Acceptable raws := by
  refine ⟨fun rule hrule => ?_, ?_⟩
  · have hmem : rule.target ∈ rules.targets.map .ok := ofRawRules_eq_ok_iff.mp h ▸ List.mem_map_of_mem hrule
    obtain ⟨t, _, ht⟩ := List.mem_map.mp hmem
    exact RawRule.exists_target_iff.mp ⟨t, ht.symm⟩
  · rw [flatMap_targets_of_yields (forall₂_yields_of_ofRawRules h)]
    exact rules.names_nodup

theorem targetsOfRawRules_eq_ok_of_ofRawRules (h : ofRawRules raws = .ok rules) :
    targetsOfRawRules [] raws = .ok rules.targets := by
  rw [← map_targets_ofRawRules, h]
  rfl

theorem ofRawRules_eq_error_iff_targetsOfRawRules :
    ofRawRules raws = .error m ↔ targetsOfRawRules [] raws = .error m := by
  rw [← map_targets_ofRawRules]
  cases ofRawRules raws <;> simp [Except.map]

theorem exists_of_ofRawRules_error (h : ofRawRules raws = .error m) : ∃ before rule after,
    raws = before ++ rule :: after ∧ Acceptable before ∧ m.location = rule.location ∧
      m.defect.Refuses before rule := by
  obtain ⟨before, rule, after, ts, rfl, hok, hstops⟩ :=
    targetsOfRawRules_eq_error_iff.mp (ofRawRules_eq_error_iff_targetsOfRawRules.mp h)
  have hbefore : Acceptable before := by
    cases hrules : ofRawRules before with
    | ok rules => exact acceptable_of_ofRawRules hrules
    | error m' => rw [ofRawRules_eq_error_iff_targetsOfRawRules.mp hrules] at hok; cases hok
  rw [List.append_nil] at hstops
  exact ⟨before, rule, after, rfl, hbefore, (stops_iff hbefore).mp hstops⟩

/-- What refuses a rule makes it unacceptable after those before it. -/
theorem not_acceptable_of_refuses {defect : Defect} (h : defect.Refuses before rule) :
    ¬ Acceptable (before ++ rule :: after) := by
  rintro ⟨hwell, hnodup⟩
  cases h with
  | flaw hflaw => exact RawRule.not_wellFormed_of_flaws hflaw (hwell rule (by simp))
  | @duplicate name earlier _ ht honly =>
    obtain ⟨hmem, hname⟩ := List.mem_filter.mp (honly ▸ List.mem_singleton_self earlier)
    rw [List.flatMap_append, List.flatMap_cons, ht] at hnodup
    refine List.disjoint_of_nodup_append hnodup (a := name) (List.mem_flatMap.mpr ⟨earlier, hmem, ?_⟩) (by simp)
    rw [eq_of_beq hname]
    exact List.mem_singleton_self name

/-- Rules make up a set exactly if they are acceptable together. -/
theorem exists_ofRawRules_iff : (∃ rules, ofRawRules raws = .ok rules) ↔ Acceptable raws := by
  refine ⟨fun ⟨rules, h⟩ => acceptable_of_ofRawRules h, fun h => ?_⟩
  cases hrules : ofRawRules raws with
  | ok rules => exact ⟨rules, rfl⟩
  | error m =>
    obtain ⟨before, rule, after, rfl, _, _, hrefuses⟩ := exists_of_ofRawRules_error hrules
    exact absurd h (not_acceptable_of_refuses hrefuses)

/-- Otherwise the first rule is refused that is not acceptable after those before it. -/
theorem ofRawRules_eq_error_iff : ofRawRules raws = .error m ↔ ∃ before rule after, raws = before ++ rule :: after ∧
    Acceptable before ∧ m.location = rule.location ∧ m.defect.Refuses before rule := by
  refine ⟨exists_of_ofRawRules_error, ?_⟩
  rintro ⟨before, rule, after, rfl, hbefore, hrefused⟩
  obtain ⟨rules, hrules⟩ := exists_ofRawRules_iff.mpr hbefore
  have hstops : Stops ((places before).reverse ++ []) rule m := by
    rw [List.append_nil]
    exact (stops_iff hbefore).mpr hrefused
  exact ofRawRules_eq_error_iff_targetsOfRawRules.mpr (targetsOfRawRules_eq_error_iff.mpr
    ⟨before, rule, after, _, rfl, targetsOfRawRules_eq_ok_of_ofRawRules hrules, hstops⟩)

/-! ## Looking up names -/

/-- The positions of the targets by their names; of two targets of one name, the later one's. -/
def index (rules : RuleSet) : Std.ExtTreeMap Name Nat :=
  .ofList (rules.targets.zipIdx.map fun p => (p.1.name, p.2))

theorem map_fst_index (rules : RuleSet) :
    (rules.targets.zipIdx.map fun p => (p.1.name, p.2)).map Prod.fst = rules.targets.map Target.name := by
  rw [List.map_map, show Prod.fst ∘ _ = Target.name ∘ (Prod.fst : Target × Nat → Target) from rfl, ← List.map_map,
    List.zipIdx_map_fst]

/-- The position of a name is that of its target. -/
theorem map_getElem?_index (rules : RuleSet) (name : Name) :
    rules.index[name]?.map (rules.targets[·]?) = (rules.get? name).map some := by
  have hnames := rules.names_nodup
  rw [← map_fst_index] at hnames
  cases ht : rules.get? name with
  | some t =>
    obtain ⟨i, hi⟩ := List.mem_iff_getElem?.mp (mem_of_get? ht)
    have hmem : (name, i) ∈ rules.targets.zipIdx.map fun p => (p.1.name, p.2) :=
      List.mem_map.mpr ⟨(t, i), List.mem_zipIdx_iff_getElem?.mpr hi, by rw [name_of_get? ht]⟩
    have hposition : rules.index[name]? = some i := by
      refine Std.ExtTreeMap.getElem?_ofList_of_mem Std.ReflCmp.compare_self ?_ hmem
      exact (List.pairwise_map.mp hnames).imp fun hne he => hne (Std.LawfulEqCmp.eq_of_compare he)
    rw [hposition, Option.map_some, hi]
    rfl
  | none =>
    have hposition : rules.index[name]? = none := by
      refine Std.ExtTreeMap.getElem?_ofList_of_contains_eq_false ?_
      rw [map_fst_index, ← Bool.not_eq_true, List.contains_iff_mem]
      exact get?_eq_none_iff.mp ht
    rw [hposition]
    rfl

end RuleSet

/-- **Rules are checked in order.** Rules make up a set exactly if each has one target, a dependency and a command, and
no two have the same target. The set then has their targets, one by one and in order, each with the dependencies, the
program and the arguments of its rule; a name is looked up to the only target that has it, if any, and its position in
the set is that of this target. Otherwise the first rule is refused, at its own place, that is not well-formed or has
the target of a rule before it: for the first of the checks of its target, its dependencies and its command that fails,
or else as a duplicate, with the place of the only rule before it that has this target. -/
theorem rules_checked_in_order (raws : List RawRule) :
    ((∃ rules, RuleSet.ofRawRules raws = .ok rules) ↔ RuleSet.Acceptable raws) ∧
    (∀ rules, RuleSet.ofRawRules raws = .ok rules → List.Forall₂ RawRule.Yields raws rules.targets ∧
      ∀ name, (∀ t, rules.get? name = some t ↔ t ∈ rules.targets ∧ t.name = name) ∧
        (rules.get? name = none ↔ name ∉ rules.targets.map Target.name) ∧
        rules.index[name]?.map (rules.targets[·]?) = (rules.get? name).map some) ∧
    ∀ m, RuleSet.ofRawRules raws = .error m ↔ ∃ before rule after, raws = before ++ rule :: after ∧
      RuleSet.Acceptable before ∧ m.location = rule.location ∧ m.defect.Refuses before rule := by
  refine ⟨RuleSet.exists_ofRawRules_iff, fun rules h => ⟨RuleSet.forall₂_yields_of_ofRawRules h, fun name => ?_⟩,
    fun m => RuleSet.ofRawRules_eq_error_iff⟩
  exact ⟨fun t => RuleSet.get?_eq_some_iff, RuleSet.get?_eq_none_iff, RuleSet.map_getElem?_index rules name⟩

/-- The third of four rules, of two files, has the target of the first, and the fourth has none: the third is refused,
with the place of the first, and the two before it make up a set, where `C` is found in the second position. -/
theorem rules_checked_in_order_duplicate :
    let first : RawRule := ⟨⟨"a.rules", 1, 1⟩, ["B"], ["A"], ["cat", "A"]⟩
    let second : RawRule := ⟨⟨"b.rules", 1, 1⟩, ["C"], ["B", "A"], ["make"]⟩
    let again : RawRule := ⟨⟨"b.rules", 2, 5⟩, ["B"], ["C"], ["cp", "C"]⟩
    let nameless : RawRule := ⟨⟨"b.rules", 3, 8⟩, [], ["C"], ["cp"]⟩
    let m : Malformed := ⟨⟨"b.rules", 2, 5⟩, .duplicate "B" ⟨"a.rules", 1, 1⟩⟩
    let rules : RuleSet := ⟨[⟨"B", ["A"], "cat", ["A"]⟩, ⟨"C", ["B", "A"], "make", []⟩], by decide, by decide⟩
    RuleSet.ofRawRules [first, second, again, nameless] = .error m ∧
      m.message = "malformed rule in b.rules, block 2 (line 5): " ++
        "duplicate target name 'B' (first declared in a.rules, block 1)" ∧
      RuleSet.ofRawRules [first, second] = .ok rules ∧ List.Forall₂ RawRule.Yields [first, second] rules.targets ∧
      rules.get? "C" = some ⟨"C", ["B", "A"], "make", []⟩ ∧ rules.get? "A" = none ∧
      rules.index["C"]?.map (rules.targets[·]?) = some (some ⟨"C", ["B", "A"], "make", []⟩) := by
  intro first second again nameless m rules
  have hacceptable : RuleSet.Acceptable [first, second] := by decide
  have hformed : again.WellFormed := by decide
  have honly : [first, second].filter (·.targets == ["B"]) = [first] := by decide
  have hok : RuleSet.ofRawRules [first, second] = .ok rules := RuleSet.ofRawRules_eq_ok_iff.mpr rfl
  obtain ⟨_, haccepted, _⟩ := rules_checked_in_order [first, second]
  obtain ⟨_, _, hrefused⟩ := rules_checked_in_order [first, second, again, nameless]
  obtain ⟨hyields, hget⟩ := haccepted rules hok
  have hC : rules.get? "C" = some ⟨"C", ["B", "A"], "make", []⟩ := ((hget "C").1 _).mpr ⟨by decide, rfl⟩
  exact ⟨(hrefused m).mpr ⟨[first, second], again, [nameless], rfl, hacceptable, rfl, .duplicate hformed rfl honly⟩,
    by decide +kernel, hok, hyields, hC, (hget "A").2.1.mpr (by decide), by rw [(hget "C").2.2, hC]; rfl⟩

end Rebuild
