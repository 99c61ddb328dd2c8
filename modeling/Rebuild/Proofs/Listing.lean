import Mathlib.Data.List.Forall2
import Rebuild.Proofs.Build.Steps
import Rebuild.Proofs.Files
import Rebuild.Proofs.PlanOrder
import Rebuild.Rehearsal

/-!
# Listings

- A listing holds the names that it is made of, each once, and each precedes the next by its bytes (`mem_listing`,
  `pairwise_listing`); so it depends on nothing but which names these are (`listing_congr`);
- the names listed by a build are those that the request reaches (`mem_listing_iff`), which for all targets are the
  names of the rules (`Graph.exists_reaches_iff`);
- rules and dependencies in another order reach the same names (`RuleSet.Rearranged.reaches_eq`).

Together: `listing_sorted_closure`.
-/

namespace Rebuild

/-! ## The order of bytes -/

/-- A name comes before another in the order of their UTF-8 bytes. -/
def Precedes (a b : Name) : Prop :=
  a.toByteArray.data.toList < b.toByteArray.data.toList

instance : Std.TransCmp byteOrder :=
  inferInstanceAs (Std.TransCmp (compareOn fun name : String => name.toByteArray.data.toList))

instance : Std.LawfulEqCmp byteOrder where
  eq_of_compare h := String.toByteArray_inj.mp (ByteArray.ext (Array.ext' (Std.LawfulEqCmp.eq_of_compare h)))

theorem compare_bytes_eq_lt {a b : List UInt8} : compare a b = .lt ↔ a < b := by
  induction a generalizing b with
  | nil => cases b <;> simp
  | cons x a ih =>
    cases b with
    | nil => simp
    | cons y b =>
      rw [List.compare_cons_cons, Ordering.then_eq_lt, ih, List.cons_lt_cons_iff, Std.compare_eq_lt,
        Std.LawfulEqCmp.compare_eq_iff_eq]

theorem byteOrder_eq_lt {a b : Name} : byteOrder a b = .lt ↔ Precedes a b :=
  compare_bytes_eq_lt

theorem Precedes.ne {a b : Name} (h : Precedes a b) : a ≠ b := by
  rintro rfl
  exact List.lt_irrefl _ h

/-! ## Listings of names -/

theorem mem_listing {names : List Name} {name : Name} : name ∈ listing names ↔ name ∈ names := by
  unfold listing
  rw [Std.TreeSet.mem_toList, Std.TreeSet.mem_ofList, List.contains_iff_mem]

theorem pairwise_listing (names : List Name) : (listing names).Pairwise Precedes :=
  Std.TreeSet.ordered_toList.imp byteOrder_eq_lt.mp

/-- A listing depends on which names it is made of, and not on their order or repetitions. -/
theorem listing_congr {names names' : List Name} (h : ∀ name, name ∈ names ↔ name ∈ names') :
    listing names = listing names' := by
  refine (Std.TreeSet.Equiv.of_forall_mem_iff fun name => ?_).toList_eq
  rw [Std.TreeSet.mem_ofList, Std.TreeSet.mem_ofList, List.contains_iff_mem, List.contains_iff_mem, h name]

/-! ## Other orders of rules -/

/-- A rule for the same name, with the same dependencies in any order, whatever the commands are. -/
def Target.Rearranged (t u : Target) : Prop :=
  t.name = u.name ∧ t.deps.Perm u.deps

namespace RuleSet

/-- The rules of a set in another order, each with its dependencies in another order. -/
def Rearranged (rules rules' : RuleSet) : Prop :=
  ∃ ts, rules.targets.Perm ts ∧ List.Forall₂ Target.Rearranged ts rules'.targets

variable {rules rules' : RuleSet}

namespace Rearranged

/-- What is said of a name and of which dependencies there are is said of both sets. -/
theorem exists_mem_iff (h : rules.Rearranged rules') {P : Target → Prop}
    (hP : ∀ t u : Target, t.Rearranged u → (P t ↔ P u)) : (∃ t ∈ rules.targets, P t) ↔ ∃ t ∈ rules'.targets, P t := by
  obtain ⟨ts, hperm, hall⟩ := h
  have hsame : (∃ t ∈ ts, P t) ↔ ∃ t ∈ rules'.targets, P t := by
    clear hperm
    generalize rules'.targets = us at hall
    induction hall with
    | nil => exact Iff.rfl
    | cons hfirst _ ih => simp only [List.exists_mem_cons_iff, hP _ _ hfirst, ih]
  rw [← hsame]
  exact exists_congr fun t => and_congr_left fun _ => hperm.mem_iff

theorem mem_dependencies_iff (h : rules.Rearranged rules') {name dep : Name} :
    dep ∈ (Graph.ofRules rules).dependencies name ↔ dep ∈ (Graph.ofRules rules').dependencies name := by
  rw [Graph.mem_dependencies_ofRules, Graph.mem_dependencies_ofRules]
  refine h.exists_mem_iff fun t u htu => ?_
  rw [htu.1, htu.2.mem_iff]

theorem reaches_eq (h : rules.Rearranged rules') : (Graph.ofRules rules).Reaches = (Graph.ofRules rules').Reaches := by
  unfold Graph.Reaches
  congr
  funext name dep
  exact propext h.mem_dependencies_iff

theorem mem_names_iff (h : rules.Rearranged rules') {name : Name} : name ∈ rules.names ↔ name ∈ rules'.names := by
  unfold names
  rw [List.mem_flatMap, List.mem_flatMap]
  refine h.exists_mem_iff fun t u htu => ?_
  rw [List.mem_cons, List.mem_cons, htu.1, htu.2.mem_iff]

end Rearranged

end RuleSet

/-! ## What a build lists -/

namespace Graph

/-- All targets together reach the names of the rules. -/
theorem exists_reaches_iff {rules : RuleSet} {name : Name} :
    (∃ r ∈ (ofRules rules).targets, (ofRules rules).Reaches r name) ↔ name ∈ rules.names := by
  constructor
  · rintro ⟨r, hr, hreach⟩
    rcases Relation.ReflTransGen.cases_tail hreach with rfl | ⟨dependent, _, hdep⟩
    · obtain ⟨t, ht, rfl⟩ := List.mem_map.mp hr
      exact RuleSet.name_mem_names ht
    · obtain ⟨t, ht, _, hdep⟩ := mem_dependencies_ofRules.mp hdep
      exact RuleSet.dep_mem_names ht hdep
  · intro hn
    obtain ⟨t, ht, hname⟩ := List.mem_flatMap.mp hn
    have hr : t.name ∈ (ofRules rules).targets := List.mem_map_of_mem ht
    rcases List.mem_cons.mp hname with rfl | hdep
    · exact ⟨t.name, hr, .refl⟩
    · exact ⟨t.name, hr, .single (mem_dependencies_ofRules.mpr ⟨t, ht, rfl, hdep⟩)⟩

end Graph

section Builds

variable {σ : Type u} [FileView σ] {runner : Runner σ} {root : String} {rules : RuleSet} {target : Option Name}
  {dryRun : Bool} {w : σ} {outcome : Outcome}

/-- The names listed are those that the request reaches. -/
theorem mem_listing_iff (h : (buildRules runner root rules target dryRun w).result = .ok outcome) {name : Name} :
    name ∈ outcome.listing ↔
      ∃ r ∈ target.elim (Graph.ofRules rules).targets ([·]), (Graph.ofRules rules).Reaches r name := by
  obtain ⟨hplan, _, hlisting⟩ := exists_of_buildRules_ok h
  rw [hlisting, mem_listing]
  exact (Graph.buildOrder_of_closure (Graph.planFrom_of_planFor hplan).closure).mem_iff name

theorem mem_listing_name_iff {name : Name}
    (h : (buildRules runner root rules (some name) dryRun w).result = .ok outcome) {x : Name} :
    x ∈ outcome.listing ↔ (Graph.ofRules rules).Reaches name x := by
  rw [mem_listing_iff h]
  simp

theorem mem_listing_all_iff (h : (buildRules runner root rules none dryRun w).result = .ok outcome) {x : Name} :
    x ∈ outcome.listing ↔ x ∈ rules.names := by
  rw [mem_listing_iff h]
  exact Graph.exists_reaches_iff

end Builds

/-- **A listing is the sorted closure of the request.** Whatever a build that ends well has done, each name of its
listing comes before the next in the order of UTF-8 bytes, so none comes twice. They are the requested name and all that
it reaches, or all names of the rules if all targets were requested. Another build of the same request that ends well
has the same listing: real or dry, with other commands, on other files, below another root, and also where the rules,
and the dependencies of each rule, are in another order. -/
theorem listing_sorted_closure {σ : Type u} [FileView σ] (runner : Runner σ) (root : String) (rules : RuleSet)
    (target : Option Name) (dryRun : Bool) (w : σ) (outcome : Outcome)
    (h : (buildRules runner root rules target dryRun w).result = .ok outcome) :
    outcome.listing.Pairwise Precedes ∧ outcome.listing.Nodup ∧
    (∀ name, target = some name → ∀ x, x ∈ outcome.listing ↔ (Graph.ofRules rules).Reaches name x) ∧
    (target = none → ∀ x, x ∈ outcome.listing ↔ x ∈ rules.names) ∧
    ∀ {σ' : Type v} [FileView σ'] (runner' : Runner σ') (root' : String) (rules' : RuleSet) (dryRun' : Bool) (w' : σ')
      (outcome' : Outcome), rules.Rearranged rules' →
        (buildRules runner' root' rules' target dryRun' w').result = .ok outcome' →
        outcome'.listing = outcome.listing := by
  obtain ⟨_, _, hlisting⟩ := exists_of_buildRules_ok h
  have hsorted : outcome.listing.Pairwise Precedes := hlisting ▸ pairwise_listing _
  refine ⟨hsorted, hsorted.imp Precedes.ne, ?_, ?_, ?_⟩
  · rintro name rfl x
    exact mem_listing_name_iff h
  · rintro rfl x
    exact mem_listing_all_iff h
  · intro σ' _ runner' root' rules' dryRun' w' outcome' hrules h'
    have hmem : ∀ x, x ∈ outcome'.listing ↔ x ∈ outcome.listing := fun x => by
      cases target with
      | none => rw [mem_listing_all_iff h', mem_listing_all_iff h, hrules.mem_names_iff]
      | some name => rw [mem_listing_name_iff h', mem_listing_name_iff h, hrules.reaches_eq]
    obtain ⟨_, _, hlisting'⟩ := exists_of_buildRules_ok h'
    rw [hlisting', hlisting] at hmem ⊢
    simp only [mem_listing] at hmem
    exact listing_congr hmem

/-- Two rules whose names come in another order by their bytes than in a dictionary. -/
def RuleSet.byBytes : RuleSet where
  targets := [⟨"b", ["é", "a"], "cat", ["a"]⟩, ⟨"Z", ["b", "~"], "cat", ["b"]⟩]
  names_nodup := by decide
  deps_ne_nil := by decide

/-- A dry run below another directory, where `b` is there already, lists what a build lists that makes both targets,
also where rules and dependencies are turned around. -/
theorem listing_sorted_closure_bytes :
    let turned : RuleSet := ⟨[⟨"Z", ["~", "b"], "cat", ["b"]⟩, ⟨"b", ["a", "é"], "cat", ["a"]⟩], by decide, by decide⟩
    let s := Store.empty.applyAll [.write "é" .empty, .write "a" .empty, .write "~" .empty]
    let other := Store.empty.applyAll [.write "sub/é" .empty, .write "sub/a" .empty, .write "sub/~" .empty,
      .write "sub/b" .empty]
    let failing : Rehearsal := fun _ => .fail 1 ""
    RuleSet.byBytes.Rearranged turned ∧
      ∃ built planned, (buildRules Rehearsal.usual.runner "." .byBytes none false s).result = .ok built ∧
        (buildRules failing.runner "sub" turned none true other).result = .ok planned ∧
        built.report.built = ["b", "Z"] ∧ planned.report.upToDate = ["b"] ∧
        built.listing = ["Z", "a", "b", "~", "é"] ∧ built.listing.Pairwise Precedes ∧
        (∀ x, x ∈ built.listing ↔ x ∈ RuleSet.byBytes.names) ∧ planned.listing = built.listing := by
  intro turned s other failing
  have hturned : RuleSet.byBytes.Rearranged turned := by
    refine ⟨RuleSet.byBytes.targets.reverse, (List.reverse_perm _).symm, ?_⟩
    have hdeps : ∀ a b : Name, [a, b].Perm [b, a] := fun a b => .swap b a []
    exact .cons ⟨rfl, hdeps "b" "~"⟩ (.cons ⟨rfl, hdeps "é" "a"⟩ .nil)
  obtain ⟨built, hfirst, hparts⟩ : ∃ o, (buildRules Rehearsal.usual.runner "." .byBytes none false s).result = .ok o ∧
      (o.report.built, o.listing) = (["b", "Z"], ["Z", "a", "b", "~", "é"]) :=
    exists_ok_of_map_toOption (by decide +kernel)
  obtain ⟨planned, hsecond, hcurrent⟩ : ∃ o, (buildRules failing.runner "sub" turned none true other).result = .ok o ∧
      o.report.upToDate = ["b"] := exists_ok_of_map_toOption (by decide +kernel)
  obtain ⟨hreport, hlisting⟩ := Prod.mk.inj hparts
  obtain ⟨hsorted, _, _, hnames, hsame⟩ := listing_sorted_closure _ _ _ _ _ _ built hfirst
  exact ⟨hturned, built, planned, hfirst, hsecond, hreport, hcurrent, hlisting, hsorted, hnames rfl,
    hsame failing.runner "sub" turned true other planned hturned hsecond⟩

end Rebuild
