import Std.Data.TreeSet
import Rebuild.Graph.Basic

/-!
# Depth-first order

`Graph.postOrder` lists what can be reached from some roots, each name once and after all its dependencies, or gives a
cycle. It visits dependencies in order, with a stack of its own: a `Traversal` is the state of this visit and
`Traversal.step` one move of it. Every move lowers `Traversal.weight` (`weight_lt_of_step`), so the visit ends.
-/

namespace Rebuild

/-- A set of names. -/
abbrev NameSet := Std.TreeSet Name

/-- A name that is being visited, and the index of the next dependency to look at. -/
structure Frame where
  name : Name
  next : Nat
deriving DecidableEq, Repr

/-- A visit under way. -/
structure Traversal where
  /-- The roots still to visit. -/
  roots : List Name
  /-- The path of names being visited, the innermost first. -/
  stack : List Frame
  /-- The names on the stack. -/
  onPath : NameSet
  /-- The nodes of the graph that are listed. -/
  done : NameSet
  /-- The names listed so far, the latest first. -/
  listed : List Name

namespace Traversal

/-- The visit before its first move. -/
def start (roots : List Name) : Traversal :=
  ⟨roots, [], ∅, ∅, []⟩

/-- The names being visited, the outermost first. -/
def path (s : Traversal) : List Name :=
  (s.stack.map Frame.name).reverse

/-- Whether a name was visited or is being visited. -/
def reached (s : Traversal) (name : Name) : Bool :=
  s.done.contains name || s.onPath.contains name

/-- Begins to visit a name. -/
def push (s : Traversal) (name : Name) : Traversal :=
  { s with stack := ⟨name, 0⟩ :: s.stack, onPath := s.onPath.insert name }

/-- Lists the innermost name, which leaves the rest of the stack. -/
def pop (s : Traversal) (name : Name) (stack : List Frame) : Traversal :=
  { s with stack, onPath := s.onPath.erase name, done := s.done.insert name, listed := name :: s.listed }

/-- The part of a path that leads from a name back to it; the whole path for a name that is not on it. -/
def cycle (path : List Name) (name : Name) : List Name :=
  path.drop ((path.idxOf? name).getD 0) ++ [name]

/-- What a move comes to. -/
inductive Outcome where
  /-- The visit goes on. -/
  | running (s : Traversal)
  /-- Everything is listed. -/
  | finished (listed : List Name)
  /-- A dependency is being visited already. -/
  | cyclic (path : List Name)

/-- One move: take the next root if the stack is empty, list the innermost name if it has no further dependency, and
otherwise look at its next dependency. A root that is no node is listed at once. -/
def step (g : Graph) (s : Traversal) : Outcome :=
  match s.stack with
  | [] =>
    match s.roots with
    | [] => .finished s.listed.reverse
    | root :: roots =>
      let s := { s with roots }
      match g.node? root with
      | none => .running (if root ∈ s.listed then s else { s with listed := root :: s.listed })
      | some _ => .running (if s.done.contains root then s else s.push root)
  | frame :: stack =>
    match (g.dependencies frame.name)[frame.next]? with
    | none => .running (s.pop frame.name stack)
    | some dep =>
      let s := { s with stack := { frame with next := frame.next + 1 } :: stack }
      if s.done.contains dep then .running s
      else if s.onPath.contains dep then .cyclic (cycle s.path dep)
      else .running (s.push dep)

/-! ## The visit ends -/

/-- The names still to be visited. -/
def unreached (g : Graph) (s : Traversal) : List Name :=
  g.names.filter (!s.reached ·)

/-- The dependencies that the names on the stack have not looked at yet. -/
def ahead (g : Graph) (s : Traversal) : List Name :=
  s.stack.flatMap fun frame => (g.dependencies frame.name).drop frame.next

/-- The moves that the names on the stack can take: one for each dependency, and one in which the name is listed. -/
def stackWeight (g : Graph) (s : Traversal) : Nat :=
  (s.ahead g).length + s.stack.length

/-- An upper bound for the moves that the visit still takes. A root and a name still to be visited count for more than
any name can take once it is on the stack. -/
def weight (g : Graph) (s : Traversal) : Nat :=
  (s.roots.length + (s.unreached g).length) * (g.names.length + 2) + s.stackWeight g

section

variable {g : Graph} {s t : Traversal} {frame : Frame} {stack : List Frame} {name x : Name}

theorem stackWeight_push : (s.push name).stackWeight g = s.stackWeight g + ((g.dependencies name).length + 1) := by
  simp only [stackWeight, ahead, push, List.flatMap_cons, List.length_append, List.length_cons, List.drop_zero]
  omega

theorem stackWeight_of_stack (h : s.stack = frame :: stack) :
    s.stackWeight g = ((g.dependencies frame.name).length - frame.next) + 1 + stackWeight g { s with stack } := by
  simp only [stackWeight, ahead, h, List.flatMap_cons, List.length_append, List.length_drop, List.length_cons]
  omega

theorem reached_push : (s.push name).reached x = (name == x || s.reached x) := by
  have : (compare name x == Ordering.eq) = (name == x) := by
    by_cases h : name = x
    · subst h; simp
    · rw [beq_eq_false_iff_ne.mpr h]
      exact beq_eq_false_iff_ne.mpr fun e => h (Std.LawfulEqCmp.eq_of_compare e)
  simp only [reached, push, Std.TreeSet.contains_insert, this]
  cases name == x <;> cases s.done.contains x <;> rfl

/-- Listing a name leaves no name unreached that was reached. -/
theorem reached_pop (h : s.reached x = true) : (s.pop name stack).reached x = true := by
  simp only [reached, pop, Bool.or_eq_true] at h ⊢
  by_cases he : name = x
  · exact Or.inl (by simp [he])
  · have hne : compare name x ≠ Ordering.eq := fun e => he (Std.LawfulEqCmp.eq_of_compare e)
    rw [Std.TreeSet.contains_insert, Std.TreeSet.contains_erase, beq_eq_false_iff_ne.mpr hne,
      bne_iff_ne.mpr hne, Bool.false_or, Bool.true_and]
    exact h

/-- As more names are reached, fewer are still to be visited. -/
theorem length_unreached_le (h : ∀ x, s.reached x = true → t.reached x = true) :
    (t.unreached g).length ≤ (s.unreached g).length := by
  unfold unreached
  rw [← List.countP_eq_length_filter, ← List.countP_eq_length_filter]
  refine List.countP_mono_left fun x _ hx => ?_
  cases hs : s.reached x with
  | false => rfl
  | true => rw [h x hs] at hx; cases hx

/-- A name of the graph whose visit begins is no longer to be visited. -/
theorem length_unreached_push_lt (hmem : name ∈ g.names) (hnew : s.reached name = false) :
    ((s.push name).unreached g).length < (s.unreached g).length := by
  have heq : (s.push name).unreached g = (s.unreached g).filter (!name == ·) := by
    unfold unreached
    rw [List.filter_filter]
    exact List.filter_congr fun x _ => by rw [reached_push, Bool.not_or]
  rw [heq, List.length_filter_lt_length_iff_exists]
  exact ⟨name, List.mem_filter.mpr ⟨hmem, by simp [hnew]⟩, by simp⟩

/-- A name may be put on the stack where a root, or a name still to be visited, is one less. -/
theorem weight_push_lt (h : s.roots.length + ((s.push name).unreached g).length <
    t.roots.length + (t.unreached g).length) (hstack : s.stackWeight g ≤ t.stackWeight g) :
    (s.push name).weight g < t.weight g := by
  have hdeps := g.length_dependencies_le name
  have hmul : (s.roots.length + ((s.push name).unreached g).length + 1) * (g.names.length + 2) ≤
      (t.roots.length + (t.unreached g).length) * (g.names.length + 2) := Nat.mul_le_mul_right _ h
  rw [Nat.succ_mul] at hmul
  show (s.roots.length + _) * _ + _ < _
  rw [stackWeight_push, weight]
  omega

/-- Taking a root from the list lowers the weight. -/
theorem weight_dropRoot_lt {root : Name} {roots : List Name} (h : s.roots = root :: roots) :
    weight g { s with roots } < s.weight g := by
  show (roots.length + (s.unreached g).length) * (g.names.length + 2) + s.stackWeight g < _
  rw [weight, h, List.length_cons, Nat.add_right_comm, Nat.succ_mul]
  omega

/-- Listing the innermost name lowers the weight. -/
theorem weight_pop_lt (h : s.stack = frame :: stack) : (s.pop frame.name stack).weight g < s.weight g := by
  have hle : ((s.pop frame.name stack).unreached g).length ≤ (s.unreached g).length :=
    length_unreached_le fun _ => reached_pop
  have hmul := Nat.mul_le_mul_right (g.names.length + 2) (Nat.add_le_add_left hle s.roots.length)
  show (s.roots.length + _) * _ + stackWeight g { s with stack } < _
  rw [weight, stackWeight_of_stack h]
  omega

/-- A look at a dependency lowers the weight of the stack. -/
theorem stackWeight_advance_lt {dep : Name} (h : s.stack = frame :: stack)
    (hdep : (g.dependencies frame.name)[frame.next]? = some dep) :
    stackWeight g { s with stack := { frame with next := frame.next + 1 } :: stack } < s.stackWeight g := by
  have hlt : frame.next < (g.dependencies frame.name).length := (List.getElem?_eq_some_iff.mp hdep).1
  rw [stackWeight_of_stack h, stackWeight_of_stack rfl]
  dsimp only
  omega

/-- Every move lowers the weight. -/
theorem weight_lt_of_step (h : s.step g = .running t) : t.weight g < s.weight g := by
  unfold step at h
  split at h
  · split at h
    · cases h
    · next root roots hroots =>
      split at h
      · cases h
        dsimp only
        split <;> exact weight_dropRoot_lt hroots
      · cases h
        split
        · exact weight_dropRoot_lt hroots
        · -- the root pays for its visit, also where it is no new name
          have hle : ((push { s with roots } root).unreached g).length ≤ (s.unreached g).length :=
            length_unreached_le fun x hx => reached_push.trans (Bool.or_eq_true_iff.mpr (Or.inr hx))
          refine weight_push_lt ?_ (Nat.le_refl _)
          rw [hroots]
          exact Nat.add_lt_add_of_lt_of_le (Nat.lt_succ_self _) hle
  · next frame stack hstack =>
    split at h
    · cases h
      exact weight_pop_lt hstack
    · next dep hdep =>
      have hadvance := stackWeight_advance_lt hstack hdep
      dsimp only at h
      split at h
      · cases h
        exact Nat.add_lt_add_left hadvance _
      · next hdone =>
        split at h
        · cases h
        · next hpath =>
          cases h
          have hmem : dep ∈ g.names := Graph.mem_names_of_mem_dependencies (List.mem_of_getElem? hdep)
          have hlt := length_unreached_push_lt hmem (s := s) (by simp [reached, hdone, hpath])
          exact weight_push_lt (Nat.add_lt_add_left hlt _) (Nat.le_of_lt hadvance)

end

/-! ## The order -/

/-- The names that a visit lists, or the cycle that it meets. -/
def run (g : Graph) (s : Traversal) : Except (List Name) (List Name) :=
  match _h : s.step g with
  | .finished listed => .ok listed
  | .cyclic path => .error path
  | .running t => run g t
termination_by s.weight g
decreasing_by exact weight_lt_of_step _h

end Traversal

/-- What can be reached from the roots, each name once and after its dependencies; or a cycle that can be reached. -/
def Graph.postOrder (g : Graph) (roots : List Name) : Except (List Name) (List Name) :=
  (Traversal.start roots).run g

end Rebuild
