import Mathlib.Algebra.GroupWithZero.Nat
import Mathlib.Algebra.Order.BigOperators.Group.List
import Mathlib.Algebra.Order.Group.Nat
import Mathlib.Data.List.Perm.Subperm
import Rebuild.Proofs.Graph.Cycle

/-!
# The states of a visit

`Traversal.after` follows a visit move by move, and keeps the names that the moves put on the stack. What a visit has at
the start and every move keeps holds in all its states (`after_induction`):

- no name on the stack has looked at more dependencies than it has (`InRange.step`);
- a move puts a node on the stack that was not reached before, or none, and it is paid for by a root, by a look at a
  dependency or by a name that is listed (`effect_of_step`);
- so the names put on the stack are different nodes, those that are done or being visited (`entered_of_after`), and
  there are at most as many moves as the graph has nodes and dependencies, with the roots (`after_le`).

Where a dependency is being visited, the path holds it, and the cycle starts there (`exists_of_step_cyclic`). Together:
`visit_enters_once`.
-/

namespace Rebuild

namespace Traversal

variable {g : Graph} {roots names : List Name} {s t : Traversal} {n : Nat}

/-! ## The states in their order -/

/-- The names that stand on a stack above the height that it had. -/
def entered (s t : Traversal) : List Name :=
  (t.stack.take (t.stack.length - s.stack.length)).map Frame.name

/-- Where a visit stands after some moves, and the names that these put on the stack, the latest first; `none` if it
ends before. -/
def after (g : Graph) (roots : List Name) : Nat → Option (List Name × Traversal)
  | 0 => some ([], start roots)
  | n + 1 =>
    match after g roots n with
    | none => none
    | some (names, s) =>
      match s.step g with
      | .running t => some (s.entered t ++ names, t)
      | _ => none

theorem after_succ (h : after g roots n = some (names, s)) (hstep : s.step g = .running t) :
    after g roots (n + 1) = some (s.entered t ++ names, t) := by
  rw [after, h]
  dsimp only
  rw [hstep]

/-- What holds at the start and is kept by every move holds in every state. -/
theorem after_induction {P : Nat → List Name → Traversal → Prop} (hstart : P 0 [] (start roots))
    (hmove : ∀ n names s t, after g roots n = some (names, s) → P n names s → s.step g = .running t →
      P (n + 1) (s.entered t ++ names) t) : ∀ {n names s}, after g roots n = some (names, s) → P n names s
  | 0, _, _, h => by cases h; exact hstart
  | n + 1, _, t, h => by
    rw [after] at h
    cases hn : after g roots n with
    | none => rw [hn] at h; cases h
    | some last =>
      obtain ⟨names, s⟩ := last
      rw [hn] at h
      dsimp only at h
      split at h
      · next hstep =>
        cases h
        exact hmove n names s t hn (after_induction hstart hmove hn) hstep
      · cases h

/-- A visit comes to a last state, whose move gives its result. -/
theorem exists_after_last (g : Graph) (roots : List Name) : ∃ n names s, after g roots n = some (names, s) ∧
    match g.postOrder roots with
    | .ok listed => s.step g = .finished listed
    | .error path => s.step g = .cyclic path := by
  have hmove : ∀ s t, (∃ n names, after g roots n = some (names, s)) → s.step g = .running t →
      ∃ n names, after g roots n = some (names, t) := by
    rintro s t ⟨n, names, h⟩ hstep
    exact ⟨n + 1, _, after_succ h hstep⟩
  obtain ⟨s, ⟨n, names, h⟩, hlast⟩ := run_last hmove (start roots) ⟨0, [], rfl⟩
  exact ⟨n, names, s, h, hlast⟩

theorem inv_of_after (hg : g.Closed) (h : after g roots n = some (names, s)) : Inv g roots none s :=
  after_induction (P := fun _ _ s => Inv g roots none s) (inv_start g roots)
    (fun _ _ _ _ _ hs hstep => hs.step hg hstep) h

theorem linked_of_after (h : after g roots n = some (names, s)) : Linked g s.stack :=
  after_induction (P := fun _ _ s => Linked g s.stack) List.isChain_nil (fun _ _ _ _ _ hs hstep => hs.step hstep) h

/-! ## Dependencies looked at -/

/-- No name of a stack has looked at more dependencies than it has. -/
def InRange (g : Graph) (stack : List Frame) : Prop :=
  ∀ frame ∈ stack, frame.next ≤ (g.dependencies frame.name).length

namespace InRange

theorem push {stack : List Frame} (h : InRange g stack) (name : Name) : InRange g (⟨name, 0⟩ :: stack) :=
  List.forall_mem_cons.mpr ⟨Nat.zero_le _, h⟩

/-- Where there is a next dependency, it may be looked at. -/
theorem advance {frame : Frame} {stack : List Frame} {dep : Name} (h : InRange g (frame :: stack))
    (hdep : (g.dependencies frame.name)[frame.next]? = some dep) :
    InRange g ({ frame with next := frame.next + 1 } :: stack) :=
  List.forall_mem_cons.mpr ⟨(List.getElem?_eq_some_iff.mp hdep).1, (List.forall_mem_cons.mp h).2⟩

/-- Every move keeps to the dependencies that there are. -/
theorem step (h : InRange g s.stack) (hstep : s.step g = .running t) : InRange g t.stack := by
  cases move_of_step hstep with
  | list => exact h
  | drop => exact h
  | enter => exact h.push _
  | leave hstack =>
    rw [hstack] at h
    exact (List.forall_mem_cons.mp h).2
  | skip hstack hdep =>
    rw [hstack] at h
    exact h.advance hdep
  | descend hstack hdep =>
    rw [hstack] at h
    exact (h.advance hdep).push _

/-- A name of the stack has no next dependency exactly if it has looked at all. -/
theorem getElem?_next_eq_none_iff {stack : List Frame} {frame : Frame} (h : InRange g stack) (hf : frame ∈ stack) :
    (g.dependencies frame.name)[frame.next]? = none ↔ frame.next = (g.dependencies frame.name).length := by
  rw [List.getElem?_eq_none_iff]
  exact ⟨fun hle => Nat.le_antisymm (h frame hf) hle, fun he => he.ge⟩

end InRange

theorem inRange_of_after (h : after g roots n = some (names, s)) : InRange g s.stack :=
  after_induction (P := fun _ _ s => InRange g s.stack) (by simp [InRange, start])
    (fun _ _ _ _ _ hs hstep => hs.step hstep) h

/-! ## What a move puts on the stack, and what pays for it -/

/-- A stack that is no higher than it was has no new names. -/
theorem entered_eq_nil (h : t.stack.length ≤ s.stack.length) : s.entered t = [] := by
  rw [entered, Nat.sub_eq_zero_of_le h]
  rfl

/-- A name put on a stack of the same height is new. -/
theorem entered_push {u : Traversal} (h : u.stack.length = s.stack.length) (name : Name) :
    s.entered (u.push name) = [name] := by
  have hheight : (u.push name).stack.length - s.stack.length = 1 := by
    rw [push, List.length_cons, h, Nat.add_sub_cancel_left]
  rw [entered, hheight]
  rfl

theorem length_advance {frame : Frame} {stack : List Frame} (hstack : s.stack = frame :: stack) :
    (s.advance frame stack).stack.length = s.stack.length := by
  rw [hstack]
  rfl

/-- Listing a name that is being visited makes no difference to the names that were reached. -/
theorem reached_pop_eq {name : Name} (h : name ∈ s.onPath) (stack : List Frame) (x : Name) :
    (s.pop name stack).reached x = s.reached x := by
  rw [Bool.eq_iff_iff, reached_iff, reached_iff]
  show x ∈ s.done.insert name ∨ x ∈ s.onPath.erase name ↔ _
  rw [NameSet.mem_insert, NameSet.mem_erase]
  by_cases hx : x = name
  · rw [hx]
    exact iff_of_true (Or.inl (Or.inl rfl)) (Or.inr h)
  · simp [hx]

/-- The moves that a node takes once it is on the stack: one for each dependency, and one in which it is listed. -/
def cost (g : Graph) (name : Name) : Nat :=
  (g.dependencies name).length + 1

/-- The moves that are left if no further name is put on the stack. -/
def due (g : Graph) (s : Traversal) : Nat :=
  s.roots.length + s.stackWeight g

/-- What a move does to the names that were reached and to the moves that are due. -/
inductive Effect (g : Graph) (s t : Traversal) : Prop
  /-- Nothing is put on the stack. -/
  | still (hentered : s.entered t = []) (hreached : ∀ x, t.reached x = s.reached x) (hdue : t.due g + 1 = s.due g)
  /-- A node that was not reached is put on the stack. -/
  | enter (name : Name) (hentered : s.entered t = [name]) (hnode : (g.node? name).isSome)
    (hnew : s.reached name = false) (hreached : ∀ x, t.reached x = (name == x || s.reached x))
    (hdue : t.due g + 1 = s.due g + cost g name)

/-- A root that is taken from the list is one move less. -/
theorem due_of_roots {root : Name} (hroots : s.roots = root :: t.roots) (hstack : t.stack = s.stack) :
    t.due g + 1 = s.due g := by
  simp only [due, stackWeight, ahead, hroots, hstack, List.length_cons]
  omega

/-- A name put on the stack brings the moves of its node. -/
theorem due_push (s : Traversal) (name : Name) : (s.push name).due g = s.due g + cost g name := by
  show s.roots.length + _ = _
  rw [stackWeight_push, due, cost, Nat.add_assoc]

/-- A look at a dependency is one move less. -/
theorem due_advance {frame : Frame} {stack : List Frame} {dep : Name} (hstack : s.stack = frame :: stack)
    (hdep : (g.dependencies frame.name)[frame.next]? = some dep) : (s.advance frame stack).due g + 1 = s.due g := by
  have hlt := (List.getElem?_eq_some_iff.mp hdep).1
  show s.roots.length + stackWeight g { s with stack := { frame with next := frame.next + 1 } :: stack } + 1 = _
  rw [stackWeight_of_stack rfl, due, stackWeight_of_stack hstack]
  dsimp only
  omega

/-- Every move has one of these effects. -/
theorem effect_of_step (hg : g.Closed) (hinv : Inv g roots none s) (hrange : InRange g s.stack)
    (hstep : s.step g = .running t) : Effect g s t := by
  cases move_of_step hstep with
  | list hstack hroots => exact .still (entered_eq_nil le_rfl) (fun _ => rfl) (due_of_roots hroots rfl)
  | drop hstack hroots => exact .still (entered_eq_nil le_rfl) (fun _ => rfl) (due_of_roots hroots rfl)
  | @enter root rest hstack hroots hnode hnew =>
    have hdrop : due g { s with roots := rest } + 1 = s.due g := due_of_roots hroots rfl
    refine .enter root (entered_push rfl root) hnode (hinv.reached_eq_false hstack hnew) (fun _ => reached_push) ?_
    rw [due_push, ← hdrop, Nat.add_right_comm]
  | @leave frame stack hstack hdep =>
    have hmem : frame ∈ s.stack := by rw [hstack]; exact List.mem_cons_self
    have hpath : frame.name ∈ s.onPath := (hinv.onPath _).mpr (List.mem_map_of_mem hmem)
    -- the name has looked at all its dependencies, and only the move that lists it was due for it
    have hall := (hrange.getElem?_next_eq_none_iff hmem).mp hdep
    refine .still (entered_eq_nil (by rw [hstack]; exact Nat.le_succ _)) (reached_pop_eq hpath stack) ?_
    show s.roots.length + stackWeight g { s with stack } + 1 = _
    rw [due, stackWeight_of_stack hstack]
    omega
  | @skip frame stack dep hstack hdep =>
    exact .still (entered_eq_nil (length_advance hstack).le) (fun _ => rfl) (due_advance hstack hdep)
  | @descend frame stack dep hstack hdep hnew =>
    refine .enter dep (entered_push (length_advance hstack) dep) (hg _ _ (List.mem_of_getElem? hdep)) hnew
      (fun _ => reached_push) ?_
    rw [due_push, ← due_advance hstack hdep, Nat.add_right_comm]

theorem effect_of_after (hg : g.Closed) (h : after g roots n = some (names, s)) (hstep : s.step g = .running t) :
    Effect g s t :=
  effect_of_step hg (inv_of_after hg h) (inRange_of_after h) hstep

/-! ## What all moves put on the stack -/

/-- The names put on the stack so far: different nodes, each of them done or being visited. -/
structure Entered (g : Graph) (names : List Name) (s : Traversal) : Prop where
  nodup : names.Nodup
  mem_iff : ∀ name, name ∈ names ↔ s.reached name = true
  node : ∀ name ∈ names, (g.node? name).isSome

theorem entered_start (g : Graph) (roots : List Name) : Entered g [] (start roots) where
  nodup := List.nodup_nil
  mem_iff := by simp [start, reached]
  node := by simp

/-- No name is put on the stack again. -/
theorem Entered.step (h : Entered g names s) (heffect : Effect g s t) : Entered g (s.entered t ++ names) t := by
  cases heffect with
  | still hentered hreached =>
    rw [hentered]
    exact ⟨h.nodup, fun x => by rw [hreached]; exact h.mem_iff x, h.node⟩
  | enter name hentered hnode hnew hreached =>
    have hfresh : name ∉ names := fun hn => by
      rw [h.mem_iff, hnew] at hn
      cases hn
    rw [hentered]
    exact {
      nodup := List.nodup_cons.mpr ⟨hfresh, h.nodup⟩
      mem_iff := fun x => by
        rw [hreached, Bool.or_eq_true_iff, beq_iff_eq, ← h.mem_iff, eq_comm]
        exact List.mem_cons
      node := List.forall_mem_cons.mpr ⟨hnode, h.node⟩ }

theorem entered_of_after (hg : g.Closed) (h : after g roots n = some (names, s)) : Entered g names s :=
  after_induction (P := fun _ names s => Entered g names s) (entered_start g roots)
    (fun _ _ _ _ hs he hstep => he.step (effect_of_after hg hs hstep)) h

/-- The moves made and the moves due are those for the roots and for the names put on the stack. -/
theorem add_due_of_after (hg : g.Closed) (h : after g roots n = some (names, s)) :
    n + s.due g = roots.length + (names.map (cost g)).sum :=
  after_induction (P := fun n names s => n + s.due g = roots.length + (names.map (cost g)).sum)
    (by simp [start, due, stackWeight, ahead])
    (fun n names s t hs hn hstep => by
      cases effect_of_after hg hs hstep with
      | still hentered _ hdue =>
        rw [hentered, List.nil_append]
        omega
      | enter name hentered _ _ _ hdue =>
        rw [hentered, List.singleton_append, List.map_cons, List.sum_cons]
        omega) h

/-- There is at most one move for each root, each node and each dependency of a node. -/
theorem after_le (hg : g.Closed) (h : after g roots n = some (names, s)) :
    n ≤ roots.length + (g.nodes.keys.map (cost g)).sum := by
  have hentered := entered_of_after hg h
  have hkeys : names ⊆ g.nodes.keys := fun name hn =>
    Std.TreeMap.mem_keys.mpr (Std.TreeMap.mem_iff_isSome_getElem?.mpr (hentered.node name hn))
  -- the names put on the stack are some of the nodes, in another order
  obtain ⟨entered, hperm, hsub⟩ := hentered.nodup.subperm hkeys
  have hsum : (names.map (cost g)).sum = (entered.map (cost g)).sum := (hperm.map (cost g)).sum_eq.symm
  have hle : (entered.map (cost g)).sum ≤ (g.nodes.keys.map (cost g)).sum :=
    (hsub.map (cost g)).sum_le_sum fun _ _ => Nat.zero_le _
  have hdue := add_due_of_after hg h
  omega

/-! ## What is done, and where a cycle starts -/

/-- The dependencies of a name that is done are done. -/
theorem Inv.dep_mem_done (hg : g.Closed) (h : Inv g roots none s) {name dep : Name} (hn : name ∈ s.done)
    (hdep : dep ∈ g.dependencies name) : dep ∈ s.done :=
  h.listedDone dep (h.listed.mem_of_reaches (h.doneListed name hn) (.single hdep)) (hg name dep hdep)

/-- Where a visit meets a cycle, the next dependency is on the path, and the cycle starts there. -/
theorem exists_of_step_cyclic (h : Inv g roots none s) {path : List Name} (hstep : s.step g = .cyclic path) :
    ∃ frame stack dep i, s.stack = frame :: stack ∧ (g.dependencies frame.name)[frame.next]? = some dep ∧
      s.path.idxOf? dep = some i ∧ path = s.path.drop i ++ [dep] := by
  cases move_of_step hstep with
  | @close frame stack dep hstack hdep hpath =>
    obtain ⟨i, hi, _, hcycle⟩ := exists_cycle_eq_drop (h.mem_onPath_iff.mp hpath)
    exact ⟨frame, stack, dep, i, hstack, hdep, hi, hcycle⟩

end Traversal

/-- **A visit enters each name once, and ends.** A visit of any roots of the graph of a rule set comes to a last state,
whose move gives its result, and makes at most one move for each root, each node and each dependency of a node. In every
state on its way:

- a name on the stack has looked at no more dependencies than it has, and there is no next one exactly if it has looked
  at all;
- the names on the stack are different and are those of the path, and each is the dependency that the name below it has
  looked at last;
- what is done is not on the path; it is the nodes that are listed, and holds their dependencies;
- the names put on the stack so far are different, and are those that are done or on the path;
- where the next move gives a cycle, the next dependency is on the path, and the cycle starts where it first is. -/
theorem visit_enters_once (rules : RuleSet) (roots : List Name) :
    let g := Graph.ofRules rules
    (∃ n names s, Traversal.after g roots n = some (names, s) ∧ match g.postOrder roots with
      | .ok listed => s.step g = .finished listed
      | .error path => s.step g = .cyclic path) ∧
    ∀ n names s, Traversal.after g roots n = some (names, s) →
      n ≤ roots.length + (g.nodes.keys.map fun name => (g.dependencies name).length + 1).sum ∧
      (∀ frame ∈ s.stack, frame.next ≤ (g.dependencies frame.name).length ∧
        ((g.dependencies frame.name)[frame.next]? = none ↔ frame.next = (g.dependencies frame.name).length)) ∧
      s.path.Nodup ∧ (∀ name, name ∈ s.onPath ↔ name ∈ s.path) ∧
      s.stack.IsChain (fun inner outer => Traversal.LastSeen g outer inner.name) ∧
      (∀ name ∈ s.done, name ∉ s.onPath) ∧
      (∀ name, name ∈ s.done ↔ name ∈ s.listed ∧ (g.node? name).isSome) ∧
      (∀ name ∈ s.done, ∀ dep ∈ g.dependencies name, dep ∈ s.done) ∧
      names.Nodup ∧ (∀ name, name ∈ names ↔ name ∈ s.done ∨ name ∈ s.onPath) ∧
      ∀ path, s.step g = .cyclic path → ∃ frame stack dep i, s.stack = frame :: stack ∧
        (g.dependencies frame.name)[frame.next]? = some dep ∧ s.path.idxOf? dep = some i ∧
        path = s.path.drop i ++ [dep] := by
  intro g
  have hg : g.Closed := Graph.closed_ofRules rules
  refine ⟨Traversal.exists_after_last g roots, fun n names s h => ?_⟩
  have hinv := Traversal.inv_of_after hg h
  have hrange := Traversal.inRange_of_after h
  have hentered := Traversal.entered_of_after hg h
  have hmem : ∀ name, name ∈ names ↔ name ∈ s.done ∨ name ∈ s.onPath := fun name =>
    (hentered.mem_iff name).trans Traversal.reached_iff
  refine ⟨Traversal.after_le hg h, fun frame hf => ⟨hrange frame hf, hrange.getElem?_next_eq_none_iff hf⟩,
    List.nodup_reverse.mpr hinv.nodup, fun _ => hinv.mem_onPath_iff, Traversal.linked_of_after h, ?_, ?_,
    fun _ hn _ => hinv.dep_mem_done hg hn, hentered.nodup, hmem, fun _ => Traversal.exists_of_step_cyclic hinv⟩
  · intro name hdone hpath
    exact hinv.notDone name ((hinv.onPath name).mp hpath) hdone
  · intro name
    constructor
    · exact fun hn => ⟨hinv.doneListed name hn, hentered.node name ((hmem name).mpr (Or.inl hn))⟩
    · exact fun hn => hinv.listedDone name hn.1 hn.2

/-- Four rules: `D` needs `A` and `B`, `A` needs the leaf `L`, `B` needs `A` and `C`, and `C` needs `B` again. -/
def RuleSet.loop : RuleSet where
  targets := [⟨"D", ["A", "B"], "cat", ["A", "B"]⟩, ⟨"A", ["L"], "cat", ["L"]⟩, ⟨"B", ["A", "C"], "cat", ["A", "C"]⟩,
    ⟨"C", ["B"], "cat", ["B"]⟩]
  names_nodup := by decide
  deps_ne_nil := by decide

/-- After nine moves, of at most thirteen, a visit of `D` has done `A` and `L`, has left out `A` below `B`, and is about
to meet `B` again. -/
theorem visit_enters_once_loop :
    let g := Graph.ofRules .loop
    ∃ names s, Traversal.after g ["Z", "D"] 9 = some (names, s) ∧
      9 ≤ 2 + (g.nodes.keys.map fun name => (g.dependencies name).length + 1).sum ∧
      names = ["C", "B", "L", "A", "D"] ∧ names.Nodup ∧ s.stack = [⟨"C", 0⟩, ⟨"B", 2⟩, ⟨"D", 2⟩] ∧
      2 ≤ (g.dependencies "B").length ∧ s.path.Nodup ∧ "A" ∈ s.done ∧ "A" ∉ s.onPath ∧
      "L" ∈ g.dependencies "A" ∧ "L" ∈ s.done ∧ s.step g = .cyclic ["B", "C", "B"] ∧
      ∃ frame stack dep i, s.stack = frame :: stack ∧ (g.dependencies frame.name)[frame.next]? = some dep ∧
        s.path.idxOf? dep = some i ∧ ["B", "C", "B"] = s.path.drop i ++ [dep] := by
  intro g
  have hshown : (Traversal.after g ["Z", "D"] 9).map (fun (names, s) => (names, s.stack, s.done.toList,
      match s.step g with | .cyclic path => path | _ => [])) =
      some (["C", "B", "L", "A", "D"], [⟨"C", 0⟩, ⟨"B", 2⟩, ⟨"D", 2⟩], ["A", "L"], ["B", "C", "B"]) := by
    decide +kernel
  have hdep : "L" ∈ g.dependencies "A" := by decide +kernel
  cases hafter : Traversal.after g ["Z", "D"] 9 with
  | none => rw [hafter] at hshown; cases hshown
  | some state =>
    obtain ⟨names, s⟩ := state
    rw [hafter] at hshown
    obtain ⟨hnames, hstack, hdone, hcycle⟩ : names = _ ∧ s.stack = _ ∧ s.done.toList = _ ∧ _ := by
      simpa only [Option.map_some, Option.some.injEq, Prod.mk.injEq] using hshown
    have hcyclic : s.step g = .cyclic ["B", "C", "B"] := by
      split at hcycle
      · next hstep => rw [hstep, hcycle]
      · cases hcycle
    have hmem : "A" ∈ s.done := by rw [← Std.TreeSet.mem_toList, hdone]; decide
    obtain ⟨hle, hrange, hpath, _, _, hdisjoint, _, hclosed, hnodup, _, hmeets⟩ :=
      (visit_enters_once .loop ["Z", "D"]).2 9 names s hafter
    exact ⟨names, s, rfl, hle, hnames, hnodup, hstack, (hrange ⟨"B", 2⟩ (by rw [hstack]; decide)).1, hpath, hmem,
      hdisjoint "A" hmem, hdep, hclosed "A" hmem "L" hdep, hcyclic, hmeets _ hcyclic⟩

end Rebuild
