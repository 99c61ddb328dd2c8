import Rebuild.Proofs.Graph.Visit

/-!
# Orders for building

`Graph.BuildOrder` says when a list of names is an order in which all that some roots reach can be built: no name comes
twice, the names are those that a root reaches, and all dependencies of a name come before it. What a visit lists is
such an order (`buildOrder_of_postOrder`), for it forgets no root on its way (`Traversal.Keeps`). In such an order all
that a name depends on comes before it (`BuildOrder.mem_before`), so no name of it depends on itself, and the order for
one root ends with this root (`BuildOrder.exists_eq_concat`).
-/

namespace Rebuild

namespace Graph

/-- A name depends on another, directly or through others. -/
def DependsOn (g : Graph) : Name → Name → Prop :=
  Relation.TransGen fun a b => b ∈ g.dependencies a

/-- All that some roots reach, each name once and after all its dependencies. -/
structure BuildOrder (g : Graph) (roots order : List Name) : Prop where
  nodup : order.Nodup
  mem_iff : ∀ name, name ∈ order ↔ ∃ root ∈ roots, g.Reaches root name
  deps_before : ∀ before name after, order = before ++ name :: after → ∀ dep ∈ g.dependencies name, dep ∈ before

variable {g : Graph} {roots : List Name}

/-! ## What is listed -/

namespace Listed

theorem nodup : ∀ {l : List Name}, g.Listed l → l.Nodup
  | [], _ => List.nodup_nil
  | _ :: _, ⟨hnew, _, hl⟩ => List.nodup_cons.mpr ⟨hnew, hl.nodup⟩

/-- What was listed before some names was listed in order. -/
theorem of_append : ∀ {later earlier : List Name}, g.Listed (later ++ earlier) → g.Listed earlier
  | [], _, h => h
  | _ :: _, _, h => of_append h.2.2

/-- What a listed name reaches is listed. -/
theorem mem_of_reaches {l : List Name} {a b : Name} (h : g.Listed l) (ha : a ∈ l) (hr : g.Reaches a b) : b ∈ l := by
  induction hr with
  | refl => exact ha
  | tail _ hdep ih =>
    obtain ⟨later, earlier, rfl⟩ := List.append_of_mem ih
    have hmem := h.of_append.2.1 _ hdep
    exact List.mem_append_right _ (List.mem_cons_of_mem _ hmem)

end Listed

/-! ## What comes before a name -/

namespace BuildOrder

variable {order before after : List Name} {a b : Name}

/-- A root is in the order. -/
theorem mem_of_mem_roots (h : g.BuildOrder roots order) (ha : a ∈ roots) : a ∈ order :=
  (h.mem_iff a).mpr ⟨a, ha, .refl⟩

/-- The order holds what the names in it reach. -/
theorem mem_of_reaches (h : g.BuildOrder roots order) (ha : a ∈ order) (hr : g.Reaches a b) : b ∈ order := by
  obtain ⟨root, hroot, hreach⟩ := (h.mem_iff a).mp ha
  exact (h.mem_iff b).mpr ⟨root, hroot, hreach.trans hr⟩

/-- All that a name depends on comes before it. -/
theorem mem_before (h : g.BuildOrder roots order) (he : order = before ++ a :: after) (hd : g.DependsOn a b) :
    b ∈ before := by
  induction hd with
  | single hdep => exact h.deps_before _ _ _ he _ hdep
  | @tail b c _ hdep ih =>
    obtain ⟨first, rest, rfl⟩ := List.append_of_mem ih
    refine List.mem_append_left _ (h.deps_before first b (rest ++ a :: after) ?_ c hdep)
    rw [he, List.append_assoc, List.cons_append]

/-- No name of the order depends on itself. -/
theorem not_dependsOn_self (h : g.BuildOrder roots order) (ha : a ∈ order) : ¬ g.DependsOn a a := by
  intro hd
  obtain ⟨before, after, he⟩ := List.append_of_mem ha
  have hnodup := h.nodup
  rw [he, List.nodup_append] at hnodup
  exact hnodup.2.2 a (h.mem_before he hd) a List.mem_cons_self rfl

/-- The order for one root ends with this root. -/
theorem exists_eq_concat (h : g.BuildOrder [a] order) : ∃ before, order = before ++ [a] := by
  obtain ⟨before, after, he⟩ := List.append_of_mem (h.mem_of_mem_roots List.mem_cons_self)
  have hnodup := h.nodup
  rw [he, List.nodup_append, List.nodup_cons] at hnodup
  obtain ⟨_, ⟨hself, _⟩, hdisjoint⟩ := hnodup
  cases after with
  | nil => exact ⟨before, he⟩
  | cons b after =>
    -- the root reaches what comes after it, which should then come before it
    exfalso
    obtain ⟨root, hroot, hreach⟩ := (h.mem_iff b).mp (by rw [he]; simp)
    rw [List.mem_singleton.mp hroot] at hreach
    rcases Relation.reflTransGen_iff_eq_or_transGen.mp hreach with rfl | hd
    · exact hself List.mem_cons_self
    · exact hdisjoint b (h.mem_before he hd) b (by simp) rfl

end BuildOrder

end Graph

/-! ## No root is forgotten -/

namespace Traversal

variable {g : Graph} {roots : List Name} {s t : Traversal}

/-- Every root is still to be visited, is being visited, or is listed. -/
def Keeps (roots : List Name) (s : Traversal) : Prop :=
  ∀ root ∈ roots, root ∈ s.roots ∨ root ∈ s.stack.map Frame.name ∨ root ∈ s.listed

theorem keeps_start (roots : List Name) : Keeps roots (start roots) := fun _ h => Or.inl h

namespace Keeps

/-- The next root can be taken from the list if it is on the stack or listed afterwards. -/
theorem next {root : Name} {rest : List Name} (hk : Keeps roots s) (hroots : s.roots = root :: rest)
    (hrest : t.roots = rest) (hstack : ∀ name ∈ s.stack.map Frame.name, name ∈ t.stack.map Frame.name)
    (hlisted : ∀ name ∈ s.listed, name ∈ t.listed) (hroot : root ∈ t.stack.map Frame.name ∨ root ∈ t.listed) :
    Keeps roots t := by
  intro r hr
  rcases hk r hr with h | h | h
  · rw [hroots] at h
    rcases List.mem_cons.mp h with rfl | h
    · exact Or.inr hroot
    · exact Or.inl (hrest ▸ h)
  · exact Or.inr (Or.inl (hstack r h))
  · exact Or.inr (Or.inr (hlisted r h))

/-- Every move keeps the roots. -/
theorem step (h : Inv g roots none s) (hk : Keeps roots s) (hstep : s.step g = .running t) : Keeps roots t := by
  cases move_of_step hstep with
  | list hstack hroots _ _ =>
    exact hk.next hroots rfl (fun _ hn => hn) (fun _ hn => List.mem_cons_of_mem _ hn) (Or.inr List.mem_cons_self)
  | drop hstack hroots hold =>
    exact hk.next hroots rfl (fun _ hn => hn) (fun _ hn => hn) (Or.inr (hold.elim id (h.doneListed _)))
  | enter hstack hroots _ _ =>
    exact hk.next hroots rfl (fun _ hn => List.mem_cons_of_mem _ hn) (fun _ hn => hn) (Or.inl List.mem_cons_self)
  | @leave frame stack hstack _ =>
    intro r hr
    rcases hk r hr with hn | hn | hn
    · exact Or.inl hn
    · rw [hstack] at hn
      rcases List.mem_cons.mp hn with rfl | hn
      · exact Or.inr (Or.inr List.mem_cons_self)
      · exact Or.inr (Or.inl hn)
    · exact Or.inr (Or.inr (List.mem_cons_of_mem _ hn))
  | skip hstack _ _ =>
    unfold Keeps
    rw [map_name_advance hstack]
    exact hk
  | descend hstack _ _ =>
    intro r hr
    refine (hk r hr).imp_right (Or.imp_left fun hn => List.mem_cons_of_mem _ ?_)
    rwa [map_name_advance hstack]

end Keeps

end Traversal

/-! ## What a visit comes to -/

/-- What a visit lists is an order for building. -/
theorem Graph.buildOrder_of_postOrder {g : Graph} (hg : g.Closed) {roots l : List Name}
    (h : g.postOrder roots = .ok l) : g.BuildOrder roots l := by
  obtain ⟨t, ⟨hinv, hkeeps⟩, hstack, hroots, rfl⟩ :=
    Traversal.exists_of_run_ok (P := fun s => Traversal.Inv g roots none s ∧ Traversal.Keeps roots s)
      (fun _ _ hs hstep => ⟨hs.1.step hg hstep, hs.2.step hs.1 hstep⟩)
      ⟨Traversal.inv_start g roots, Traversal.keeps_start roots⟩ h
  have hlisted : ∀ root ∈ roots, root ∈ t.listed := fun root hr => by
    simpa [hstack, hroots] using hkeeps root hr
  exact {
    nodup := List.nodup_reverse.mpr hinv.listed.nodup
    mem_iff := fun name => by
      rw [List.mem_reverse]
      constructor
      · exact fun hn => hinv.reached name (Or.inl hn)
      · rintro ⟨root, hr, hreach⟩
        exact hinv.listed.mem_of_reaches (hlisted root hr) hreach
    deps_before := fun before name after he dep hdep => by
      have hl := hinv.listed
      rw [← List.reverse_reverse t.listed, he, List.reverse_append, List.reverse_cons, List.append_assoc,
        List.singleton_append] at hl
      exact List.mem_reverse.mp (hl.of_append.2.1 dep hdep) }

end Rebuild
