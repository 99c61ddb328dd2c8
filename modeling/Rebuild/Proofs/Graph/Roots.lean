import Rebuild.Proofs.Graph.Recursion

/-!
# The roots of a visit, one after the other

Names looked at together are looked at one part after the other (`Explores.append_of_ok`). What was listed before makes
no other difference than that it is left out (`Explores.prune`): names that some order for building holds lead to no
cycle (`Listed.not_explores_error`) and list nothing else (`Explores.filter_eq`). Nor does it matter which names are
being visited if no cycle is met (`Explores.of_subset`).

So a visit of some roots and then of others lists what the two visits list, without what was listed already
(`postOrder_append`), and a visit of a name lists its dependencies and then the name (`postOrder_singleton`).
-/

namespace Rebuild

namespace Graph

variable {g : Graph} {path listed names more before : List Name} {result : Except (List Name) (List Name)}

/-! ## Parts of a list of names -/

namespace Explores

/-- Names are looked at one part after the other. -/
theorem append_of_ok {l : List Name} (h : g.Explores path listed names (.ok l))
    (hmore : g.Explores path l more result) :
    g.Explores path listed (names ++ more) result := by
  generalize hr : Except.ok l = r at h
  induction h with
  | nil => cases hr; exact hmore
  | skip hlisted _ ih => exact .skip hlisted (ih hmore hr)
  | close => cases hr
  | fail => cases hr
  | list hnew hpath hdeps _ _ ih => exact .list hnew hpath hdeps (ih hmore hr)

/-- Where the first part meets a cycle, the others are not looked at. -/
theorem append_of_error {cycle : List Name} (h : g.Explores path listed names (.error cycle)) (more : List Name) :
    g.Explores path listed (names ++ more) (.error cycle) := by
  generalize hr : Except.error cycle = r at h ⊢
  induction h with
  | nil => cases hr
  | skip hlisted _ ih => exact .skip hlisted (ih hr)
  | close hnew hpath => exact .close hnew hpath
  | fail hnew hpath hdeps => exact .fail hnew hpath hdeps
  | list hnew hpath hdeps _ _ ih => exact .list hnew hpath hdeps (ih hr)

/-- Where no cycle is met, fewer names may be being visited. -/
theorem of_subset {path' l : List Name} (h : g.Explores path listed names (.ok l))
    (hsub : ∀ name ∈ path', name ∈ path) :
    g.Explores path' listed names (.ok l) := by
  generalize hr : Except.ok l = r at h
  induction h generalizing path' l with
  | nil => exact .nil
  | skip hlisted _ ih => exact .skip hlisted (ih hsub hr)
  | close => cases hr
  | fail => cases hr
  | @list path listed names below name result hnew hpath _ _ ihdeps ih =>
    have hcons : ∀ x ∈ name :: path', x ∈ name :: path := List.cons_subset_cons name hsub
    exact .list hnew (fun hm => hpath (hsub _ hm)) (ihdeps hcons rfl) (ih hsub hr)

end Explores

/-! ## What was listed before -/

/-- A name in an order for building comes after its dependencies, and these are an order of their own. -/
theorem Listed.exists_of_mem {l : List Name} {name : Name} (h : g.Listed l) (hn : name ∈ l) :
    ∃ earlier, g.Listed earlier ∧ name ∉ earlier ∧ (∀ dep ∈ g.dependencies name, dep ∈ earlier) ∧
      ∀ x ∈ earlier, x ∈ l := by
  obtain ⟨later, earlier, rfl⟩ := List.append_of_mem hn
  obtain ⟨hnew, hdeps, hearlier⟩ := h.of_append
  exact ⟨earlier, hearlier, hnew, hdeps, fun x hx => List.mem_append_right _ (List.mem_cons_of_mem _ hx)⟩

/-- Names in an order for building lead to no cycle. -/
theorem Listed.not_explores_error {cycle : List Name} (hb : g.Listed before) (hnames : ∀ name ∈ names, name ∈ before)
    (hpath : ∀ name ∈ path, name ∉ before) : ¬ g.Explores path listed names (.error cycle) := by
  intro h
  generalize hr : Except.error cycle = r at h
  induction h generalizing before with
  | nil => cases hr
  | skip _ _ ih => exact ih hb (fun x hx => hnames x (List.mem_cons_of_mem _ hx)) hpath hr
  | close _ hmem => exact hpath _ hmem (hnames _ List.mem_cons_self)
  | fail _ _ _ ih =>
    -- the dependencies of the first name are in a shorter order, which lacks this name
    obtain ⟨earlier, hearlier, hself, hdeps, hsub⟩ := hb.exists_of_mem (hnames _ List.mem_cons_self)
    refine ih hearlier hdeps (List.forall_mem_cons.mpr ⟨hself, fun x hx he => hpath x hx (hsub x he)⟩) hr
  | list _ _ _ _ _ ih => exact ih hb (fun x hx => hnames x (List.mem_cons_of_mem _ hx)) hpath hr

namespace Explores

/-- Names of a set that holds all their dependencies list nothing outside it. -/
theorem filter_eq {l : List Name} (h : g.Explores path listed names (.ok l)) (hnames : ∀ name ∈ names, name ∈ before)
    (hclosed : ∀ name ∈ before, ∀ dep ∈ g.dependencies name, dep ∈ before) :
    l.filter (· ∉ before) = listed.filter (· ∉ before) := by
  generalize hr : Except.ok l = r at h
  induction h generalizing l with
  | nil => cases hr; rfl
  | skip _ _ ih => exact ih (fun x hx => hnames x (List.mem_cons_of_mem _ hx)) hr
  | close => cases hr
  | fail => cases hr
  | @list path listed names below name result _ _ _ _ ihdeps ih =>
    have hmem : name ∈ before := hnames name List.mem_cons_self
    calc l.filter (· ∉ before)
        = (name :: below).filter (· ∉ before) := ih (fun x hx => hnames x (List.mem_cons_of_mem _ hx)) hr
      _ = below.filter (· ∉ before) := List.filter_cons_of_neg (by simpa using hmem)
      _ = listed.filter (· ∉ before) := ihdeps (hclosed name hmem) rfl

/-- What was listed before is left out, and makes no other difference. -/
theorem prune (hb : g.Listed before) (h : g.Explores path listed names result) (hpath : ∀ name ∈ path, name ∉ before) :
    g.Explores path (listed.filter (· ∉ before) ++ before) names
      (result.map fun l => l.filter (· ∉ before) ++ before) := by
  have hlisted : ∀ {l : List Name} {x : Name}, x ∈ l.filter (· ∉ before) ++ before ↔ x ∈ l ∨ x ∈ before := by
    intro l x
    by_cases hx : x ∈ before <;> simp [hx]
  induction h with
  | nil => exact .nil
  | skip hold _ ih => exact .skip (hlisted.mpr (Or.inl hold)) (ih hpath)
  | close hnew hmem => exact .close (fun hm => (hlisted.mp hm).elim hnew (hpath _ hmem)) hmem
  | @fail path listed names cycle name hnew hnot hdeps ih =>
    by_cases hn : name ∈ before
    · have hfail : g.Explores path listed [name] (.error cycle) := .fail hnew hnot hdeps
      exact absurd hfail (hb.not_explores_error (by simpa using hn) hpath)
    · refine .fail (fun hm => (hlisted.mp hm).elim hnew hn) hnot (ih ?_)
      exact List.forall_mem_cons.mpr ⟨hn, hpath⟩
  | @list path listed names below name result hnew hnot hdeps _ ihdeps ih =>
    have hrest := ih hpath
    by_cases hn : name ∈ before
    · have hsame : (name :: below).filter (· ∉ before) = listed.filter (· ∉ before) := by
        rw [List.filter_cons_of_neg (by simpa using hn)]
        obtain ⟨earlier, _, _, hd, hsub⟩ := hb.exists_of_mem hn
        refine hdeps.filter_eq (fun dep hdep => hsub dep (hd dep hdep)) fun x hx dep hdep => ?_
        obtain ⟨_, _, _, hd, hsub⟩ := hb.exists_of_mem hx
        exact hsub dep (hd dep hdep)
      rw [hsame] at hrest
      exact .skip (hlisted.mpr (Or.inr hn)) hrest
    · rw [List.filter_cons_of_pos (by simpa using hn)] at hrest
      exact .list (fun hm => (hlisted.mp hm).elim hnew hn) hnot (ihdeps (List.forall_mem_cons.mpr ⟨hn, hpath⟩)) hrest

end Explores

/-! ## Visits of roots -/

/-- A visit of some roots and then of others meets the first cycle that the two visits meet, or lists what they list
without what was listed already. -/
theorem postOrder_append (hg : g.Closed) (first second : List Name) :
    g.postOrder (first ++ second) = do
      let before ← g.postOrder first
      let after ← g.postOrder second
      return before ++ after.filter (· ∉ before) := by
  obtain ⟨result₁, h₁, he₁⟩ := exists_explores hg first
  obtain ⟨result₂, h₂, he₂⟩ := exists_explores hg second
  rw [he₁, he₂]
  cases result₁ with
  | error cycle => exact postOrder_eq_of_explores hg (h₁.append_of_error second)
  | ok before =>
    have hlisted : g.Listed before := by
      have := (listed_of_postOrder hg he₁).1
      rwa [List.reverse_reverse] at this
    have hboth := h₁.append_of_ok (h₂.prune hlisted (by simp))
    rw [postOrder_eq_of_explores hg hboth]
    cases result₂ with
    | error cycle => rfl
    | ok after =>
      show Except.ok _ = Except.ok _
      rw [List.reverse_append, ← List.filter_reverse]
      simp only [List.mem_reverse]

/-- A visit of a name that reaches no cycle lists its dependencies as a visit of these does, and then the name. -/
theorem postOrder_singleton (hg : g.Closed) {name : Name}
    (hacyclic : ∀ x, g.Reaches name x → ¬ g.DependsOn x x) : ∃ below,
      g.postOrder (g.dependencies name) = .ok below ∧ g.postOrder [name] = .ok (below ++ [name]) := by
  obtain ⟨result, h, he⟩ := exists_explores hg [name]
  have hok : ∀ cycle, result ≠ .error cycle := by
    rintro cycle rfl
    obtain ⟨root, hroot, x, hreach, hd⟩ := (exists_postOrder_error_iff hg).mp ⟨cycle, he⟩
    rw [List.mem_singleton.mp hroot] at hreach
    exact hacyclic x hreach hd
  cases h with
  | skip hlisted => cases hlisted
  | close _ hpath => cases hpath
  | fail => exact absurd rfl (hok _)
  | @list _ _ _ below _ _ _ _ hdeps hrest =>
    cases hrest
    refine ⟨below.reverse, postOrder_eq_of_explores hg (hdeps.of_subset (by simp)), ?_⟩
    rw [he, ← List.reverse_cons]
    rfl

end Graph

end Rebuild
