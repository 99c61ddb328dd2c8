import Mathlib.Logic.Relation
import Rebuild.Proofs.Graph.Move
import Rebuild.Proofs.Graph.OfRules

/-!
# What a visit lists

`Traversal.Inv` is what every state of a visit satisfies: the names on the stack are nodes without repetition and not
listed yet, each of them has looked at dependencies that are listed or next on the stack, and what is listed is in an
order where dependencies come first. Every move keeps it (`Inv.step`), so a finished visit lists names that the roots
reach, each once and after all its dependencies (`listed_of_postOrder`).
-/

namespace Rebuild

namespace Graph

/-- A name depends on another, directly or through others, or is the same. -/
def Reaches (g : Graph) : Name → Name → Prop :=
  Relation.ReflTransGen fun a b => b ∈ g.dependencies a

/-- Names, the latest first, each listed once and after all its dependencies. -/
def Listed (g : Graph) : List Name → Prop
  | [] => True
  | name :: listed => name ∉ listed ∧ (∀ dep ∈ g.dependencies name, dep ∈ listed) ∧ g.Listed listed

/-- A name without dependencies reaches only itself. -/
theorem eq_of_reaches_leaf {g : Graph} {a b : Name} (h : g.Reaches a b) (ha : g.dependencies a = []) : b = a := by
  rcases Relation.ReflTransGen.cases_head h with h | ⟨c, hc, _⟩
  · exact h.symm
  · rw [ha] at hc
    cases hc

end Graph

namespace NameSet

theorem mem_insert {s : NameSet} {a b : Name} : b ∈ s.insert a ↔ b = a ∨ b ∈ s := by
  rw [Std.TreeSet.mem_insert, Std.LawfulEqCmp.compare_eq_iff_eq, eq_comm]

theorem mem_erase {s : NameSet} {a b : Name} : b ∈ s.erase a ↔ b ≠ a ∧ b ∈ s := by
  rw [Std.TreeSet.mem_erase, ne_eq, Std.LawfulEqCmp.compare_eq_iff_eq, eq_comm]

end NameSet

namespace Traversal

variable {g : Graph} {roots : List Name}

/-- The dependencies that the names on the stack have looked at are done, save the last: it is the next name on the
stack, or `child` if there is none. -/
def Visited (g : Graph) (done : NameSet) : Option Name → List Frame → Prop
  | _, [] => True
  | child, frame :: stack =>
    (∀ dep ∈ (g.dependencies frame.name).take frame.next, dep ∈ done ∨ child = some dep) ∧
      Visited g done (some frame.name) stack

/-- What every state of a visit satisfies. While a dependency is looked at, it is the `child` to be visited next. -/
structure Inv (g : Graph) (roots : List Name) (child : Option Name) (s : Traversal) : Prop where
  node : ∀ name ∈ s.stack.map Frame.name, (g.node? name).isSome
  nodup : (s.stack.map Frame.name).Nodup
  onPath : ∀ name, name ∈ s.onPath ↔ name ∈ s.stack.map Frame.name
  notDone : ∀ name ∈ s.stack.map Frame.name, name ∉ s.done
  doneListed : ∀ name ∈ s.done, name ∈ s.listed
  listedDone : ∀ name ∈ s.listed, (g.node? name).isSome → name ∈ s.done
  visited : Visited g s.done child s.stack
  listed : g.Listed s.listed
  reached : ∀ name, name ∈ s.listed ∨ name ∈ s.stack.map Frame.name → ∃ root ∈ roots, g.Reaches root name
  rest : ∀ root ∈ s.roots, root ∈ roots

theorem Visited.mono {done done' : NameSet} (h : ∀ name ∈ done, name ∈ done') :
    ∀ {child : Option Name} {stack : List Frame}, Visited g done child stack → Visited g done' child stack
  | _, [], _ => trivial
  | _, _ :: _, hv => ⟨fun dep hdep => (hv.1 dep hdep).imp_left (h dep), Visited.mono h hv.2⟩

/-- A child that is done is no longer waited for. -/
theorem Visited.of_done {done : NameSet} {child : Name} (h : child ∈ done) {stack : List Frame}
    (hv : Visited g done (some child) stack) : Visited g done none stack := by
  cases stack with
  | nil => trivial
  | cons frame stack =>
    refine ⟨fun dep hdep => Or.inl ?_, hv.2⟩
    rcases hv.1 dep hdep with hd | hd
    · exact hd
    · rw [← Option.some.inj hd]; exact h

/-! ## What the invariant says of a name -/

section

variable {s : Traversal} {name : Name}

theorem reached_iff : s.reached name = true ↔ name ∈ s.done ∨ name ∈ s.onPath :=
  Bool.or_eq_true_iff

theorem mem_path_iff : name ∈ s.path ↔ name ∈ s.stack.map Frame.name :=
  List.mem_reverse

end

namespace Inv

variable {s : Traversal} {child : Option Name} {name : Name}

theorem mem_onPath_iff (h : Inv g roots child s) : name ∈ s.onPath ↔ name ∈ s.path :=
  (h.onPath name).trans mem_path_iff.symm

/-- With nothing on the stack nothing is on the path, and a name that is not done was not reached. -/
theorem reached_eq_false (h : Inv g roots child s) (hstack : s.stack = []) (hnew : name ∉ s.done) :
    s.reached name = false := by
  rw [← Bool.not_eq_true, reached_iff]
  rintro (hdone | hpath)
  · exact hnew hdone
  · rw [h.onPath, hstack] at hpath
    cases hpath

/-- A name that was not reached is neither done nor on the stack. -/
theorem not_mem_of_new (h : Inv g roots child s) (hnew : s.reached name = false) :
    name ∉ s.done ∧ name ∉ s.stack.map Frame.name := by
  obtain ⟨hdone, hpath⟩ := Bool.or_eq_false_iff.mp hnew
  exact ⟨fun hd => Bool.false_ne_true (hdone.symm.trans hd),
    fun hs => Bool.false_ne_true (hpath.symm.trans ((h.onPath name).mpr hs))⟩

/-- A name on the stack is not listed. -/
theorem not_mem_listed (h : Inv g roots child s) (hmem : name ∈ s.stack.map Frame.name) : name ∉ s.listed := fun hl =>
  h.notDone name hmem (h.listedDone name hl (h.node name hmem))

end Inv

/-! ## Each move keeps the invariant -/

theorem inv_start (g : Graph) (roots : List Name) : Inv g roots none (start roots) where
  node := by simp [start]
  nodup := by simp [start]
  onPath := by simp [start]
  notDone := by simp [start]
  doneListed := by simp [start]
  listedDone := by simp [start]
  visited := trivial
  listed := trivial
  reached := by simp [start]
  rest := fun _ h => h

namespace Inv

variable {s : Traversal} {child : Option Name}

theorem mem_roots {root : Name} {rest : List Name} (h : Inv g roots child s) (hr : s.roots = root :: rest) :
    root ∈ roots :=
  h.rest root (by rw [hr]; exact List.mem_cons_self)

/-- A root is taken from the list. -/
theorem dropRoot {root : Name} {rest : List Name} (h : Inv g roots child s) (hr : s.roots = root :: rest) :
    Inv g roots child { s with roots := rest } :=
  { h with rest := fun r hm => h.rest r (by rw [hr]; exact List.mem_cons_of_mem _ hm) }

/-- A root that is no node is listed. -/
theorem list {name : Name} (h : Inv g roots child s) (hnode : g.node? name = none) (hnew : name ∉ s.listed)
    (hroot : name ∈ roots) : Inv g roots child { s with listed := name :: s.listed } :=
  { h with
    doneListed := fun n hn => List.mem_cons_of_mem _ (h.doneListed n hn)
    listedDone := by
      intro n hn hs
      rcases List.mem_cons.mp hn with rfl | hn
      · rw [hnode] at hs; cases hs
      · exact h.listedDone n hn hs
    listed := by
      have hdeps : g.dependencies name = [] := by unfold Graph.dependencies; rw [hnode]
      exact ⟨hnew, by simp [hdeps], h.listed⟩
    reached := by
      rintro n (hn | hn)
      · rcases List.mem_cons.mp hn with rfl | hn
        · exact ⟨n, hroot, .refl⟩
        · exact h.reached n (Or.inl hn)
      · exact h.reached n (Or.inr hn) }

/-- The innermost name looks at its next dependency. -/
theorem advance {frame : Frame} {stack : List Frame} {dep : Name} (h : Inv g roots none s)
    (hs : s.stack = frame :: stack) (hd : (g.dependencies frame.name)[frame.next]? = some dep) :
    Inv g roots (some dep) { s with stack := { frame with next := frame.next + 1 } :: stack } :=
  { node := by simpa only [hs, List.map_cons] using h.node
    nodup := by simpa only [hs, List.map_cons] using h.nodup
    onPath := by simpa only [hs, List.map_cons] using h.onPath
    notDone := by simpa only [hs, List.map_cons] using h.notDone
    doneListed := h.doneListed
    listedDone := h.listedDone
    visited := by
      have hv := h.visited
      rw [hs] at hv
      refine ⟨fun d hdm => ?_, hv.2⟩
      rw [List.take_add_one, hd] at hdm
      rcases List.mem_append.mp hdm with hdm | hdm
      · exact (hv.1 d hdm).imp_right fun e => by cases e
      · exact Or.inr (by simpa [eq_comm] using hdm)
    listed := h.listed
    reached := by simpa only [hs, List.map_cons] using h.reached
    rest := h.rest }

/-- A dependency that is done needs no visit. -/
theorem skip {dep : Name} (h : Inv g roots (some dep) s) (hd : dep ∈ s.done) : Inv g roots none s :=
  { h with visited := h.visited.of_done hd }

/-- A node that is neither done nor on the stack is pushed. -/
theorem push {name : Name} (h : Inv g roots (some name) s) (hnode : (g.node? name).isSome)
    (hnew : s.reached name = false) (hreach : ∃ root ∈ roots, g.Reaches root name) :
    Inv g roots none (s.push name) := by
  obtain ⟨hdone, hstack⟩ := h.not_mem_of_new hnew
  exact {
    node := List.forall_mem_cons.mpr ⟨hnode, h.node⟩
    nodup := List.nodup_cons.mpr ⟨hstack, h.nodup⟩
    onPath := fun n => by
      show n ∈ s.onPath.insert name ↔ n ∈ name :: s.stack.map Frame.name
      rw [NameSet.mem_insert, h.onPath, List.mem_cons]
    notDone := List.forall_mem_cons.mpr ⟨hdone, h.notDone⟩
    doneListed := h.doneListed
    listedDone := h.listedDone
    visited := ⟨by simp, h.visited⟩
    listed := h.listed
    reached := by
      rintro n (hn | hn)
      · exact h.reached n (Or.inl hn)
      · rcases List.mem_cons.mp hn with rfl | hn
        · exact hreach
        · exact h.reached n (Or.inr hn)
    rest := h.rest }

/-- The innermost name is listed once all its dependencies are. -/
theorem pop {frame : Frame} {stack : List Frame} (h : Inv g roots none s) (hs : s.stack = frame :: stack)
    (hd : (g.dependencies frame.name)[frame.next]? = none) : Inv g roots none (s.pop frame.name stack) := by
  have hmem : frame.name ∈ s.stack.map Frame.name := by rw [hs]; exact List.mem_cons_self
  have hnodup := h.nodup
  have hv := h.visited
  rw [hs] at hv hnodup
  obtain ⟨hout, hnodup⟩ := List.nodup_cons.mp hnodup
  have hsub : ∀ n ∈ stack.map Frame.name, n ∈ s.stack.map Frame.name := fun n hn => by
    rw [hs]; exact List.mem_cons_of_mem _ hn
  have hdone : ∀ n ∈ s.done, n ∈ s.done.insert frame.name := fun n hn => NameSet.mem_insert.mpr (Or.inr hn)
  have hself : frame.name ∈ s.done.insert frame.name := NameSet.mem_insert.mpr (Or.inl rfl)
  -- all dependencies were looked at, and no name of the stack is waited for
  have hdeps : ∀ dep ∈ g.dependencies frame.name, dep ∈ s.listed := fun dep hdep => by
    have hle : (g.dependencies frame.name).length ≤ frame.next := List.getElem?_eq_none_iff.mp hd
    rw [← List.take_of_length_le hle] at hdep
    rcases hv.1 dep hdep with hdep | hdep
    · exact h.doneListed dep hdep
    · cases hdep
  have hnew : frame.name ∉ s.listed := h.not_mem_listed hmem
  exact {
    node := fun n hn => h.node n (hsub n hn)
    nodup := hnodup
    onPath := fun n => by
      show n ∈ s.onPath.erase frame.name ↔ n ∈ stack.map Frame.name
      rw [NameSet.mem_erase, h.onPath, hs, List.map_cons, List.mem_cons]
      constructor
      · rintro ⟨hne, hn | hn⟩
        · exact absurd hn hne
        · exact hn
      · exact fun hn => ⟨fun e => hout (e ▸ hn), Or.inr hn⟩
    notDone := fun n hn hd => by
      rcases NameSet.mem_insert.mp hd with rfl | hd
      · exact hout hn
      · exact h.notDone n (hsub n hn) hd
    doneListed := fun n hn => by
      rcases NameSet.mem_insert.mp hn with rfl | hn
      · exact List.mem_cons_self
      · exact List.mem_cons_of_mem _ (h.doneListed n hn)
    listedDone := fun n hn hnode => by
      rcases List.mem_cons.mp hn with rfl | hn
      · exact hself
      · exact hdone n (h.listedDone n hn hnode)
    visited := (hv.2.mono hdone).of_done hself
    listed := ⟨hnew, hdeps, h.listed⟩
    reached := by
      rintro n (hn | hn)
      · rcases List.mem_cons.mp hn with rfl | hn
        · exact h.reached _ (Or.inr hmem)
        · exact h.reached n (Or.inl hn)
      · exact h.reached n (Or.inr (hsub n hn))
    rest := h.rest }

/-- Every move keeps the invariant. -/
theorem step (hg : g.Closed) {t : Traversal} (h : Inv g roots none s) (hstep : s.step g = .running t) :
    Inv g roots none t := by
  cases move_of_step hstep with
  | list hstack hroots hnode hnew => exact (h.dropRoot hroots).list hnode hnew (h.mem_roots hroots)
  | drop hstack hroots hold => exact h.dropRoot hroots
  | @enter root rest hstack hroots hnode hnew =>
    -- nothing is on the stack, so nothing there waits for the root
    have hwait : Inv g roots (some root) { s with roots := rest } :=
      { h.dropRoot hroots with visited := by dsimp only; rw [hstack]; trivial }
    exact hwait.push hnode (h.reached_eq_false hstack hnew) ⟨root, h.mem_roots hroots, .refl⟩
  | leave hstack hdep => exact h.pop hstack hdep
  | skip hstack hdep hdone => exact (h.advance hstack hdep).skip hdone
  | @descend frame stack dep hstack hdep hnew =>
    have hmem : dep ∈ g.dependencies frame.name := List.mem_of_getElem? hdep
    obtain ⟨root, hroot, hr⟩ := h.reached frame.name (Or.inr (by rw [hstack]; exact List.mem_cons_self))
    exact (h.advance hstack hdep).push (hg _ _ hmem) hnew ⟨root, hroot, hr.tail hmem⟩

end Inv

end Traversal

/-- What a visit lists: names that a root reaches, in an order where dependencies come first. -/
theorem Graph.listed_of_postOrder {g : Graph} (hg : g.Closed) {roots l : List Name} (h : g.postOrder roots = .ok l) :
    g.Listed l.reverse ∧ ∀ name ∈ l, ∃ root ∈ roots, g.Reaches root name := by
  obtain ⟨t, ht, _, _, rfl⟩ := Traversal.exists_of_run_ok (P := Traversal.Inv g roots none)
    (fun _ _ hs hstep => hs.step hg hstep) (Traversal.inv_start g roots) h
  rw [List.reverse_reverse]
  exact ⟨ht.listed, fun name hn => ht.reached name (Or.inl (List.mem_reverse.mp hn))⟩

end Rebuild
