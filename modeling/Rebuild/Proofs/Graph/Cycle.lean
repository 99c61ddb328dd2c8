import Mathlib.Data.List.Chain
import Rebuild.Proofs.Graph.Order

/-!
# Cycles

`Graph.IsCycle` says when a path leads along dependencies from a name back to it and meets no other name twice; every
name on it then depends on itself (`IsCycle.dependsOn_self`). The stack of a visit is such a path as far as it goes:
each name on it is the dependency that the name below has looked at last (`Traversal.Linked`). So where a visit meets a
name that is on its stack, it finds where the name is on the path (`Traversal.exists_cycle_eq_drop`) and gives a cycle
that a root reaches (`isCycle_of_postOrder_error`), and it does so exactly if there is one
(`exists_postOrder_error_iff`).
-/

namespace Rebuild

namespace Graph

/-- A path along dependencies that ends where it starts and meets no other name twice. -/
structure IsCycle (g : Graph) (path : List Name) : Prop where
  length : 2 ≤ path.length
  closed : path.head? = path.getLast?
  nodup : path.dropLast.Nodup
  chain : path.IsChain fun a b => b ∈ g.dependencies a

variable {g : Graph}

/-- What comes after a name on a path is what it depends on. -/
theorem dependsOn_of_isChain {a b : Name} {path : List Name}
    (h : (a :: path).IsChain fun a b => b ∈ g.dependencies a) (hb : b ∈ path) : g.DependsOn a b := by
  have htrans : (a :: path).IsChain g.DependsOn := h.imp fun _ _ => .single
  unfold DependsOn at htrans ⊢
  exact htrans.rel_cons hb

/-- Every name on a cycle depends on itself. -/
theorem IsCycle.dependsOn_self {path : List Name} (h : g.IsCycle path) {name : Name} (hn : name ∈ path) :
    g.DependsOn name name := by
  obtain ⟨hlength, hclosed, _, hchain⟩ := h
  cases path with
  | nil => cases hn
  | cons first rest =>
    have hlast : rest.getLast? = some first := by
      cases rest with
      | nil => simp at hlength
      | cons second rest => rw [← List.getLast?_cons_cons, ← hclosed]; rfl
    have hfirst : g.DependsOn first first := dependsOn_of_isChain hchain (List.mem_of_getLast? hlast)
    rcases List.mem_cons.mp hn with rfl | hn
    · exact hfirst
    · -- from the name to the end of the path, where the first name is, and from there to the name
      obtain ⟨before, after, rfl⟩ := List.append_of_mem hn
      have hto : g.DependsOn first name := dependsOn_of_isChain hchain hn
      rw [List.getLast?_append_cons] at hlast
      rcases List.mem_cons.mp (List.mem_of_getLast? hlast) with rfl | hmem
      · exact hfirst
      · rw [← List.cons_append] at hchain
        exact (dependsOn_of_isChain hchain.right_of_append hmem).trans hto

end Graph

namespace Traversal

variable {g : Graph} {roots : List Name} {s t : Traversal}

/-! ## The stack is a path -/

/-- A name is the dependency that a frame has looked at last. -/
def LastSeen (g : Graph) (frame : Frame) (dep : Name) : Prop :=
  ∃ i, frame.next = i + 1 ∧ (g.dependencies frame.name)[i]? = some dep

/-- Each name of a stack, the innermost first, is the dependency that the name below it has looked at last. -/
def Linked (g : Graph) (stack : List Frame) : Prop :=
  stack.IsChain fun inner outer => LastSeen g outer inner.name

namespace Linked

/-- The innermost name may look at further dependencies. -/
theorem advance {frame : Frame} {stack : List Frame} (h : Linked g (frame :: stack)) (next : Nat) :
    Linked g ({ frame with next } :: stack) := by
  cases stack with
  | nil => exact List.isChain_singleton _
  | cons outer stack => exact List.isChain_cons_cons.mpr (List.isChain_cons_cons.mp h)

/-- Every move keeps the stack linked. -/
theorem step (h : Linked g s.stack) (hstep : s.step g = .running t) : Linked g t.stack := by
  cases move_of_step hstep with
  | list => exact h
  | drop => exact h
  | enter hstack =>
    show Linked g (_ :: s.stack)
    rw [hstack]
    exact List.isChain_singleton _
  | leave hstack =>
    rw [hstack] at h
    exact h.tail
  | skip hstack =>
    rw [hstack] at h
    exact h.advance _
  | @descend frame stack dep hstack hdep =>
    rw [hstack] at h
    exact List.isChain_cons_cons.mpr ⟨⟨frame.next, rfl, hdep⟩, h.advance _⟩

/-- The names of a linked stack, the outermost first, are a path along dependencies. -/
theorem isChain_path (h : Linked g s.stack) : s.path.IsChain fun a b => b ∈ g.dependencies a := by
  unfold path
  rw [List.isChain_reverse, List.isChain_map]
  refine h.imp fun inner outer hlast => ?_
  obtain ⟨i, _, hdep⟩ := hlast
  exact List.mem_of_getElem? hdep

end Linked

/-- A cycle at a name of a path starts where the name first is on the path. -/
theorem exists_cycle_eq_drop {path : List Name} {name : Name} (h : name ∈ path) :
    ∃ i, path.idxOf? name = some i ∧ path.drop i = name :: path.drop (i + 1) ∧
      cycle path name = path.drop i ++ [name] := by
  obtain ⟨i, hi⟩ := Option.isSome_iff_exists.mp (List.isSome_idxOf?.mpr h)
  obtain ⟨hlt, hname, _⟩ := List.findIdx?_eq_some_iff_getElem.mp hi
  refine ⟨i, hi, ?_, by rw [cycle, hi, Option.getD_some]⟩
  rw [List.drop_eq_getElem_cons hlt, eq_of_beq hname]

/-- The part of a path from a name on, closed with this name, is a cycle if the path ends with a name that depends on
it. -/
theorem isCycle_cycle {path : List Name} {name : Name} (hnodup : path.Nodup)
    (hchain : path.IsChain fun a b => b ∈ g.dependencies a) (hmem : name ∈ path)
    (hlast : ∀ last ∈ path.getLast?, name ∈ g.dependencies last) : g.IsCycle (cycle path name) := by
  obtain ⟨i, _, hdrop, hcycle⟩ := exists_cycle_eq_drop hmem
  rw [← List.take_append_drop i path, hdrop] at hnodup hchain hlast
  rw [List.getLast?_append_cons] at hlast
  rw [hcycle, hdrop]
  exact {
    length := by simp
    closed := by rw [List.getLast?_concat]; rfl
    nodup := by rw [List.dropLast_concat]; exact (List.nodup_append.mp hnodup).2.1
    chain := hchain.right_of_append.append (List.isChain_singleton name) fun last hl b hb => by
      obtain rfl : name = b := Option.some.inj hb
      exact hlast last hl }

end Traversal

namespace Graph

variable {g : Graph} {roots path : List Name}

/-! ## What a visit gives for an order -/

/-- A visit that lists nothing gives a cycle, all of which is reached by roots. -/
theorem isCycle_of_postOrder_error (hg : g.Closed) (h : g.postOrder roots = .error path) :
    g.IsCycle path ∧ ∀ name ∈ path, ∃ root ∈ roots, g.Reaches root name := by
  obtain ⟨t, frame, stack, dep, ⟨hinv, hlinked⟩, hstack, hdep, honPath, rfl⟩ :=
    Traversal.exists_of_run_error (P := fun s => Traversal.Inv g roots none s ∧ Traversal.Linked g s.stack)
      (fun _ _ hs hstep => ⟨hs.1.step hg hstep, hs.2.step hstep⟩)
      ⟨Traversal.inv_start g roots, List.isChain_nil⟩ h
  have hmem : dep ∈ t.path := hinv.mem_onPath_iff.mp honPath
  have hlast : t.path.getLast? = some frame.name := by simp [Traversal.path, hstack]
  refine ⟨Traversal.isCycle_cycle (List.nodup_reverse.mpr hinv.nodup) hlinked.isChain_path hmem ?_, ?_⟩
  · intro last hl
    rw [hlast] at hl
    exact Option.some.inj hl ▸ hdep
  · intro name hn
    refine hinv.reached name (Or.inr (Traversal.mem_path_iff.mp ?_))
    rcases List.mem_append.mp hn with hn | hn
    · exact List.mem_of_mem_drop hn
    · rwa [List.mem_singleton.mp hn]

/-- A visit gives a cycle exactly if there is one that a root reaches. -/
theorem exists_postOrder_error_iff (hg : g.Closed) :
    (∃ path, g.postOrder roots = .error path) ↔
      ∃ root ∈ roots, ∃ name, g.Reaches root name ∧ g.DependsOn name name := by
  constructor
  · rintro ⟨path, h⟩
    obtain ⟨hcycle, hreached⟩ := isCycle_of_postOrder_error hg h
    obtain ⟨name, hn⟩ : ∃ name, name ∈ path := by
      cases path with
      | nil => exact absurd hcycle.length (by simp)
      | cons name _ => exact ⟨name, List.mem_cons_self⟩
    obtain ⟨root, hroot, hreach⟩ := hreached name hn
    exact ⟨root, hroot, name, hreach, hcycle.dependsOn_self hn⟩
  · rintro ⟨root, hroot, name, hreach, hd⟩
    cases h : g.postOrder roots with
    | error path => exact ⟨path, rfl⟩
    | ok order =>
      have horder := buildOrder_of_postOrder hg h
      exact absurd hd (horder.not_dependsOn_self ((horder.mem_iff name).mpr ⟨root, hroot, hreach⟩))

end Graph

end Rebuild
