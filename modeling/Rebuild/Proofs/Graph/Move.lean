import Rebuild.Graph.Traversal

/-!
# The moves of a visit

`Traversal.Move` lists what one move of a visit can be, with all that each move means: how the stack and the roots
stand, and what is known of the name that it is about. Every move is one of these (`Traversal.move_of_step`), so what
visits keep is shown move by move, and `Traversal.step` is not unfolded again. What all moves keep holds where a visit
ends (`run_last`).
-/

namespace Rebuild

namespace Traversal

/-- The visit after the innermost name has looked at one more dependency. -/
def advance (s : Traversal) (frame : Frame) (stack : List Frame) : Traversal :=
  { s with stack := { frame with next := frame.next + 1 } :: stack }

theorem map_name_advance {s : Traversal} {frame : Frame} {stack : List Frame} (h : s.stack = frame :: stack) :
    (s.advance frame stack).stack.map Frame.name = s.stack.map Frame.name := by
  rw [h]
  rfl

/-- The ways in which a visit can move. -/
inductive Move (g : Graph) (s : Traversal) : Outcome → Prop
  /-- Nothing is left to visit. -/
  | finish (hstack : s.stack = []) (hroots : s.roots = []) : Move g s (.finished s.listed.reverse)
  /-- The next root is no node, and is listed. -/
  | list {root : Name} {roots : List Name} (hstack : s.stack = []) (hroots : s.roots = root :: roots)
    (hnode : g.node? root = none) (hnew : root ∉ s.listed) :
    Move g s (.running { s with roots, listed := root :: s.listed })
  /-- The next root is listed already, or a node that is done. -/
  | drop {root : Name} {roots : List Name} (hstack : s.stack = []) (hroots : s.roots = root :: roots)
    (hold : root ∈ s.listed ∨ root ∈ s.done) : Move g s (.running { s with roots })
  /-- The next root is a node that is not done, and its visit begins. -/
  | enter {root : Name} {roots : List Name} (hstack : s.stack = []) (hroots : s.roots = root :: roots)
    (hnode : (g.node? root).isSome) (hnew : root ∉ s.done) : Move g s (.running ({ s with roots }.push root))
  /-- The innermost name has no further dependency, and is listed. -/
  | leave {frame : Frame} {stack : List Frame} (hstack : s.stack = frame :: stack)
    (hdep : (g.dependencies frame.name)[frame.next]? = none) : Move g s (.running (s.pop frame.name stack))
  /-- The next dependency is done. -/
  | skip {frame : Frame} {stack : List Frame} {dep : Name} (hstack : s.stack = frame :: stack)
    (hdep : (g.dependencies frame.name)[frame.next]? = some dep) (hdone : dep ∈ s.done) :
    Move g s (.running (s.advance frame stack))
  /-- The next dependency is new, and its visit begins. -/
  | descend {frame : Frame} {stack : List Frame} {dep : Name} (hstack : s.stack = frame :: stack)
    (hdep : (g.dependencies frame.name)[frame.next]? = some dep) (hnew : s.reached dep = false) :
    Move g s (.running ((s.advance frame stack).push dep))
  /-- The next dependency is being visited: it depends on itself. -/
  | close {frame : Frame} {stack : List Frame} {dep : Name} (hstack : s.stack = frame :: stack)
    (hdep : (g.dependencies frame.name)[frame.next]? = some dep) (hpath : dep ∈ s.onPath) :
    Move g s (.cyclic (cycle s.path dep))

/-- Every move is one of these. -/
theorem move (g : Graph) (s : Traversal) : Move g s (s.step g) := by
  unfold step
  split
  · next hstack =>
    split
    · next hroots => exact .finish hstack hroots
    · next root roots hroots =>
      dsimp only
      split
      · next hnode =>
        split
        · next hlisted => exact .drop hstack hroots (Or.inl hlisted)
        · next hlisted => exact .list hstack hroots hnode hlisted
      · next node hnode =>
        split
        · next hdone => exact .drop hstack hroots (Or.inr hdone)
        · next hdone => exact .enter hstack hroots (by rw [hnode]; rfl) hdone
  · next frame stack hstack =>
    split
    · next hdep => exact .leave hstack hdep
    · next dep hdep =>
      have hpath : (s.advance frame stack).path = s.path := congrArg List.reverse (map_name_advance hstack)
      dsimp only
      split
      · next hdone => exact .skip hstack hdep hdone
      · next hdone =>
        split
        · next honPath =>
          show Move g s (.cyclic (cycle (s.advance frame stack).path dep))
          rw [hpath]
          exact .close hstack hdep honPath
        · next honPath => exact .descend hstack hdep (by simp [reached, hdone, honPath])

variable {g : Graph}

/-- What a visit comes to in one move, it comes to in one of these ways. -/
theorem move_of_step {s : Traversal} {outcome : Outcome} (h : s.step g = outcome) : Move g s outcome :=
  h ▸ s.move g

/-! ## Whole visits -/

theorem run_of_finished {s : Traversal} {listed : List Name} (h : s.step g = .finished listed) :
    s.run g = .ok listed := by
  unfold run
  split
  · next h' => rw [h] at h'; cases h'; rfl
  · next h' => rw [h] at h'; cases h'
  · next h' => rw [h] at h'; cases h'

theorem run_of_cyclic {s : Traversal} {path : List Name} (h : s.step g = .cyclic path) : s.run g = .error path := by
  unfold run
  split
  · next h' => rw [h] at h'; cases h'
  · next h' => rw [h] at h'; cases h'; rfl
  · next h' => rw [h] at h'; cases h'

theorem run_of_running {s t : Traversal} (h : s.step g = .running t) : s.run g = t.run g := by
  rw [run]
  split
  · next h' => rw [h] at h'; cases h'
  · next h' => rw [h] at h'; cases h'
  · next h' => rw [h] at h'; cases h'; rfl

/-- What every move keeps holds in the last state of a visit, whose move gives its result. -/
theorem run_last {P : Traversal → Prop} (hP : ∀ s t, P s → s.step g = .running t → P t) (s : Traversal) (hs : P s) :
    ∃ t, P t ∧ match s.run g with
      | .ok listed => t.step g = .finished listed
      | .error path => t.step g = .cyclic path := by
  induction s using Traversal.run.induct g with
  | case1 s listed h => exact ⟨s, hs, by rw [run_of_finished h]; exact h⟩
  | case2 s path h => exact ⟨s, hs, by rw [run_of_cyclic h]; exact h⟩
  | case3 s t h ih => rw [run_of_running h]; exact ih (hP s t hs h)

/-- A visit that lists names has nothing left to visit in its last state. -/
theorem exists_of_run_ok {P : Traversal → Prop} (hP : ∀ s t, P s → s.step g = .running t → P t) {s : Traversal}
    (hs : P s) {l : List Name} (h : s.run g = .ok l) :
    ∃ t, P t ∧ t.stack = [] ∧ t.roots = [] ∧ l = t.listed.reverse := by
  obtain ⟨t, ht, hlast⟩ := run_last hP s hs
  rw [h] at hlast
  cases move_of_step hlast with
  | finish hstack hroots => exact ⟨t, ht, hstack, hroots, rfl⟩

/-- A visit that gives a path has met in its last state a dependency that is being visited. -/
theorem exists_of_run_error {P : Traversal → Prop} (hP : ∀ s t, P s → s.step g = .running t → P t) {s : Traversal}
    (hs : P s) {path : List Name} (h : s.run g = .error path) :
    ∃ t frame stack dep, P t ∧ t.stack = frame :: stack ∧ dep ∈ g.dependencies frame.name ∧ dep ∈ t.onPath ∧
      path = cycle t.path dep := by
  obtain ⟨t, ht, hlast⟩ := run_last hP s hs
  rw [h] at hlast
  cases move_of_step hlast with
  | close hstack hdep hpath => exact ⟨t, _, _, _, ht, hstack, List.mem_of_getElem? hdep, hpath, rfl⟩

end Traversal

end Rebuild
