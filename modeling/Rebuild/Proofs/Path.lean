import Rebuild.Path
import Rebuild.Proofs.Text.Words

/-!
# Normal forms of paths

A slash divides the components before it from those after it (`components_append_slash`), and a piece without slashes is
a component of its own unless it is empty or a single dot (`components_piece`). A path and its normal form have the same
components and start at the same place (`components_normal`, `isAbsolute_normal`), so two paths have one normal form
exactly if they agree on both (`normal_eq_iff`).
-/

namespace Rebuild.Path

/-- A text that can be a component: two dots can, a single dot cannot. -/
structure IsComponent (w : String) : Prop where
  ne_empty : w ≠ ""
  ne_dot : w ≠ "."
  no_slash : '/' ∉ w.toList

/-! ## Components -/

theorem components_append_slash (p q : String) : components (p ++ "/" ++ q) = components p ++ components q := by
  have hchars : (p ++ "/" ++ q).toList = p.toList ++ '/' :: q.toList := by simp
  unfold components
  rw [hchars, List.splitOnP_append_cons _ _ rfl, List.filter_append, List.map_append]

theorem splitOnP_of_no_slash {cs : List Char} (h : '/' ∉ cs) : cs.splitOnP (· == '/') = [cs] := by
  refine List.splitOnP_eq_singleton fun c hc => beq_eq_false_iff_ne.mpr ?_
  rintro rfl
  exact h hc

theorem components_piece {w : String} (h : '/' ∉ w.toList) :
    components w = if w = "" ∨ w = "." then [] else [w] := by
  have hempty : w.toList.isEmpty = true ↔ w = "" := by rw [List.isEmpty_iff, String.toList_eq_nil_iff]
  have hdot : (w.toList == ['.']) = true ↔ w = "." := by rw [beq_iff_eq, ← String.toList_inj]; rfl
  unfold components
  rw [splitOnP_of_no_slash h, List.filter_cons, List.filter_nil]
  by_cases hw : w = "" ∨ w = "."
  · have hdrop : (w.toList.isEmpty || w.toList == ['.']) = true := by rwa [Bool.or_eq_true, hempty, hdot]
    rw [if_pos hw, hdrop]
    rfl
  · have hkeep : (w.toList.isEmpty || w.toList == ['.']) = false := by
      rwa [← Bool.not_eq_true, Bool.or_eq_true, hempty, hdot]
    rw [if_neg hw, hkeep]
    simp

theorem IsComponent.components_eq {w : String} (h : IsComponent w) : components w = [w] := by
  rw [components_piece h.no_slash, if_neg (not_or.mpr ⟨h.ne_empty, h.ne_dot⟩)]

@[simp] theorem components_empty : components "" = [] :=
  components_piece (by simp)

theorem isComponent_of_mem {w path : String} (h : w ∈ components path) : IsComponent w := by
  obtain ⟨piece, hpiece, rfl⟩ := List.mem_map.mp h
  obtain ⟨hmem, hkeep⟩ := List.mem_filter.mp hpiece
  have hkeep : ¬(piece.isEmpty = true ∨ piece = ['.']) := by simpa using hkeep
  refine ⟨fun he => hkeep (Or.inl ?_), fun he => hkeep (Or.inr ?_), fun hslash => ?_⟩
  · rw [List.isEmpty_iff, ← String.toList_ofList (l := piece), he]
    rfl
  · rw [← String.toList_ofList (l := piece), he]
    rfl
  · rw [String.toList_ofList] at hslash
    have := Text.eq_false_of_mem_splitOnP hmem '/' hslash
    cases this

/-- Components that are put together with slashes are found again. -/
theorem components_intercalate {ws : List String} (h : ∀ w ∈ ws, IsComponent w) :
    components ("/".intercalate ws) = ws := by
  induction ws with
  | nil => rw [String.intercalate_nil, components_empty]
  | cons w ws ih =>
    obtain ⟨hw, hws⟩ := List.forall_mem_cons.mp h
    cases ws with
    | nil => rw [String.intercalate_singleton, hw.components_eq]
    | cons v vs =>
      rw [String.intercalate_cons_cons, components_append_slash, hw.components_eq, ih hws]
      rfl

/-! ## Normal forms -/

theorem components_normal (path : String) : components (normal path) = components path := by
  have hjoined := components_intercalate fun w (hw : w ∈ components path) => isComponent_of_mem hw
  unfold normal
  split
  · have hslash : "/" ++ "/".intercalate (components path) = "" ++ "/" ++ "/".intercalate (components path) := by
      rw [String.empty_append]
    rw [hslash, components_append_slash, components_empty, hjoined, List.nil_append]
  · rw [String.empty_append, hjoined]

theorem isAbsolute_append {p : String} (h : p ≠ "") (q : String) : isAbsolute (p ++ q) = isAbsolute p := by
  obtain ⟨c, cs, hcs⟩ := List.exists_cons_of_ne_nil fun he => h (String.toList_eq_nil_iff.mp he)
  unfold isAbsolute
  rw [String.toList_append, hcs]
  rfl

theorem IsComponent.isAbsolute_eq {w : String} (h : IsComponent w) : isAbsolute w = false := by
  refine beq_eq_false_iff_ne.mpr fun he => h.no_slash ?_
  exact List.mem_of_mem_head? he

theorem isAbsolute_normal (path : String) : isAbsolute (normal path) = isAbsolute path := by
  unfold normal
  split
  · next h => rw [isAbsolute_append (by decide), h]; rfl
  · next h =>
    -- a relative path starts with its first component, if it has any
    rw [String.empty_append, Bool.eq_false_iff.mpr h]
    cases hws : components path with
    | nil => rfl
    | cons w ws =>
      have hw : IsComponent w := isComponent_of_mem (hws ▸ List.mem_cons_self)
      cases ws with
      | nil => rw [String.intercalate_singleton, hw.isAbsolute_eq]
      | cons v vs =>
        rw [String.intercalate_cons_cons, String.append_assoc, isAbsolute_append hw.ne_empty, hw.isAbsolute_eq]

theorem normal_eq_iff {p q : String} :
    normal p = normal q ↔ isAbsolute p = isAbsolute q ∧ components p = components q := by
  constructor
  · intro h
    rw [← isAbsolute_normal p, ← isAbsolute_normal q, ← components_normal p, ← components_normal q, h]
    exact ⟨rfl, rfl⟩
  · rintro ⟨habsolute, hcomponents⟩
    unfold normal
    rw [habsolute, hcomponents]

@[simp] theorem normal_normal (path : String) : normal (normal path) = normal path :=
  normal_eq_iff.mpr ⟨isAbsolute_normal path, components_normal path⟩

end Rebuild.Path
