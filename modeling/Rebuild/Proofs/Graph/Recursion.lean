import Rebuild.Proofs.Graph.Cycle

/-!
# The visit as a recursion

A visit keeps a stack, but what it comes to can be told without one. `Graph.Explores` does so by recursion: to look at
names one after the other is to leave out those that are listed, to meet a cycle at one that is being visited, and
otherwise to look at all dependencies of a name, to list it, and to go on with the names after it. This comes to one
result (`Explores.unique`).

What is left of a visit with names on its stack is to look at the dependencies that each of them has not looked at yet,
from the innermost outwards, and then at the roots (`Traversal.Resumes`). Every move of a visit leaves this result as it
is, so a visit comes to what the recursion says (`exists_explores`, `postOrder_eq_of_explores`).
-/

namespace Rebuild

namespace Graph

/-- What it comes to if names are looked at one after the other, while those of `path` are being visited, the innermost
first, and those of `listed` are listed, the latest first: what is listed then, or a cycle. -/
inductive Explores (g : Graph) : (path listed names : List Name) → Except (List Name) (List Name) → Prop
  /-- No name is left. -/
  | nil {path listed : List Name} : Explores g path listed [] (.ok listed)
  /-- The first name is listed. -/
  | skip {path listed names : List Name} {name : Name} {result : Except (List Name) (List Name)}
    (hlisted : name ∈ listed) (hrest : Explores g path listed names result) :
    Explores g path listed (name :: names) result
  /-- The first name is being visited. -/
  | close {path listed names : List Name} {name : Name} (hnew : name ∉ listed) (hpath : name ∈ path) :
    Explores g path listed (name :: names) (.error (Traversal.cycle path.reverse name))
  /-- Below the first name is a cycle. -/
  | fail {path listed names cycle : List Name} {name : Name} (hnew : name ∉ listed) (hpath : name ∉ path)
    (hdeps : Explores g (name :: path) listed (g.dependencies name) (.error cycle)) :
    Explores g path listed (name :: names) (.error cycle)
  /-- The first name is listed after its dependencies. -/
  | list {path listed names below : List Name} {name : Name} {result : Except (List Name) (List Name)}
    (hnew : name ∉ listed) (hpath : name ∉ path)
    (hdeps : Explores g (name :: path) listed (g.dependencies name) (.ok below))
    (hrest : Explores g path (name :: below) names result) : Explores g path listed (name :: names) result

variable {g : Graph} {path listed names : List Name} {result result' : Except (List Name) (List Name)}

/-- It comes to one result. -/
theorem Explores.unique (h : g.Explores path listed names result) (h' : g.Explores path listed names result') :
    result = result' := by
  induction h generalizing result' with
  | nil => cases h'; rfl
  | skip hlisted _ ih =>
    cases h' with
    | skip _ hrest => exact ih hrest
    | close hnew _ => exact absurd hlisted hnew
    | fail hnew _ _ => exact absurd hlisted hnew
    | list hnew _ _ _ => exact absurd hlisted hnew
  | close hnew hpath =>
    cases h' with
    | skip hlisted _ => exact absurd hlisted hnew
    | close => rfl
    | fail _ hnot _ => exact absurd hpath hnot
    | list _ hnot _ _ => exact absurd hpath hnot
  | fail hnew hpath _ ih =>
    cases h' with
    | skip hlisted _ => exact absurd hlisted hnew
    | close _ hmem => exact absurd hmem hpath
    | fail _ _ hdeps => exact ih hdeps
    | list _ _ hdeps _ => cases ih hdeps
  | list hnew hpath _ _ ih ihrest =>
    cases h' with
    | skip hlisted _ => exact absurd hlisted hnew
    | close _ hmem => exact absurd hmem hpath
    | fail _ _ hdeps => cases ih hdeps
    | list _ _ hdeps hrest =>
      cases ih hdeps
      exact ihrest hrest

end Graph

namespace Traversal

variable {g : Graph} {roots : List Name} {s : Traversal}

/-! ## What is left of a visit -/

/-- What is left of a visit comes to a result: the names on the stack look at their further dependencies and are listed,
the innermost first, and then the roots are looked at. -/
inductive Resumes (g : Graph) : (stack : List Frame) → (listed roots : List Name) →
    Except (List Name) (List Name) → Prop
  /-- Only roots are left. -/
  | roots {listed roots : List Name} {result : Except (List Name) (List Name)}
    (hroots : g.Explores [] listed roots result) : Resumes g [] listed roots result
  /-- The innermost name is listed after its further dependencies. -/
  | list {frame : Frame} {stack : List Frame} {listed roots below : List Name} {result : Except (List Name) (List Name)}
    (hdeps : g.Explores (frame.name :: stack.map Frame.name) listed ((g.dependencies frame.name).drop frame.next)
      (.ok below))
    (hrest : Resumes g stack (frame.name :: below) roots result) : Resumes g (frame :: stack) listed roots result
  /-- Below the innermost name is a cycle. -/
  | fail {frame : Frame} {stack : List Frame} {listed roots cycle : List Name}
    (hdeps : g.Explores (frame.name :: stack.map Frame.name) listed ((g.dependencies frame.name).drop frame.next)
      (.error cycle)) : Resumes g (frame :: stack) listed roots (.error cycle)

namespace Resumes

variable {frame : Frame} {stack : List Frame} {listed : List Name} {dep : Name}
  {result : Except (List Name) (List Name)}

/-- The dependencies left to look at start with the next one. -/
theorem drop_next (h : (g.dependencies frame.name)[frame.next]? = some dep) :
    (g.dependencies frame.name).drop frame.next = dep :: (g.dependencies frame.name).drop (frame.next + 1) := by
  rw [List.drop_eq_getElem?_toList_append, h]
  rfl

/-- A root whose visit begins is looked at as the first of the roots. -/
theorem of_enter {root : Name} {rest : List Name} (hnew : root ∉ listed)
    (h : Resumes g [⟨root, 0⟩] listed rest result) : Resumes g [] listed (root :: rest) result := by
  cases h with
  | list hdeps hrest =>
    cases hrest with
    | roots hroots => exact .roots (.list hnew List.not_mem_nil hdeps hroots)
  | fail hdeps => exact .roots (.fail hnew List.not_mem_nil hdeps)

/-- A dependency that is listed is left out. -/
theorem of_skip (hdep : (g.dependencies frame.name)[frame.next]? = some dep) (hlisted : dep ∈ listed)
    (h : Resumes g ({ frame with next := frame.next + 1 } :: stack) listed roots result) :
    Resumes g (frame :: stack) listed roots result := by
  cases h with
  | list hdeps hrest => exact .list (by rw [drop_next hdep]; exact .skip hlisted hdeps) hrest
  | fail hdeps => exact .fail (by rw [drop_next hdep]; exact .skip hlisted hdeps)

/-- A dependency whose visit begins is looked at as the first of those that are left. -/
theorem of_descend (hdep : (g.dependencies frame.name)[frame.next]? = some dep) (hnew : dep ∉ listed)
    (hpath : dep ∉ frame.name :: stack.map Frame.name)
    (h : Resumes g (⟨dep, 0⟩ :: { frame with next := frame.next + 1 } :: stack) listed roots result) :
    Resumes g (frame :: stack) listed roots result := by
  cases h with
  | list hbelow hrest =>
    cases hrest with
    | list hdeps hrest => exact .list (by rw [drop_next hdep]; exact .list hnew hpath hbelow hdeps) hrest
    | fail hdeps => exact .fail (by rw [drop_next hdep]; exact .list hnew hpath hbelow hdeps)
  | fail hbelow => exact .fail (by rw [drop_next hdep]; exact .fail hnew hpath hbelow)

/-- Every move leaves the result as it is. -/
theorem of_step {t : Traversal} (hg : g.Closed) (hinv : Inv g roots none s) (hstep : s.step g = .running t)
    (h : Resumes g t.stack t.listed t.roots result) : Resumes g s.stack s.listed s.roots result := by
  cases move_of_step hstep with
  | @list root rest hstack hroots hnode hnew =>
    -- a root that is no node has no dependencies to look at
    have hdeps : g.dependencies root = [] := by unfold Graph.dependencies; rw [hnode]
    rw [hstack] at h ⊢
    rw [hroots]
    cases h with
    | roots hrest => exact .roots (.list hnew List.not_mem_nil (by rw [hdeps]; exact .nil) hrest)
  | @drop root rest hstack hroots hold =>
    have hlisted : root ∈ s.listed := hold.elim id (hinv.doneListed root)
    rw [hstack] at h ⊢
    rw [hroots]
    cases h with
    | roots hrest => exact .roots (.skip hlisted hrest)
  | @enter root rest hstack hroots hnode hnew =>
    change Resumes g (⟨root, 0⟩ :: s.stack) s.listed rest result at h
    rw [hstack] at h ⊢
    rw [hroots]
    exact of_enter (fun hl => hnew (hinv.listedDone root hl hnode)) h
  | @leave frame stack hstack hdep =>
    have hdrop : (g.dependencies frame.name).drop frame.next = [] :=
      List.drop_eq_nil_of_le (List.getElem?_eq_none_iff.mp hdep)
    rw [hstack]
    exact .list (by rw [hdrop]; exact .nil) h
  | skip hstack hdep hdone =>
    rw [hstack]
    exact of_skip hdep (hinv.doneListed _ hdone) h
  | @descend frame stack dep hstack hdep hnew =>
    obtain ⟨hdone, hpath⟩ := hinv.not_mem_of_new hnew
    have hlisted : dep ∉ s.listed := fun hl =>
      hdone (hinv.listedDone dep hl (hg _ _ (List.mem_of_getElem? hdep)))
    rw [hstack] at hpath ⊢
    exact of_descend hdep hlisted hpath h

end Resumes

/-- A visit comes to what is left of it. -/
theorem exists_resumes (hg : g.Closed) (hinv : Inv g roots none s) :
    ∃ result, Resumes g s.stack s.listed s.roots result ∧ s.run g = result.map List.reverse := by
  induction s using Traversal.run.induct g with
  | case1 s listed hstep =>
    cases move_of_step hstep with
    | finish hstack hroots =>
      refine ⟨.ok s.listed, ?_, run_of_finished hstep⟩
      rw [hstack, hroots]
      exact .roots .nil
  | case2 s path hstep =>
    cases move_of_step hstep with
    | @close frame stack dep hstack hdep hpath =>
      have hmem : dep ∈ s.stack.map Frame.name := (hinv.onPath dep).mp hpath
      have hnew : dep ∉ s.listed := hinv.not_mem_listed hmem
      refine ⟨.error (cycle s.path dep), ?_, run_of_cyclic hstep⟩
      unfold path
      rw [hstack] at hmem ⊢
      exact .fail (by rw [Resumes.drop_next hdep]; exact .close hnew hmem)
  | case3 s t hstep ih =>
    obtain ⟨result, hresumes, hrun⟩ := ih (hinv.step hg hstep)
    exact ⟨result, .of_step hg hinv hstep hresumes, by rw [run_of_running hstep, hrun]⟩

end Traversal

namespace Graph

variable {g : Graph} {roots : List Name} {result : Except (List Name) (List Name)}

/-- A visit comes to what it comes to if its roots are looked at one after the other. -/
theorem exists_explores (hg : g.Closed) (roots : List Name) :
    ∃ result, g.Explores [] [] roots result ∧ g.postOrder roots = result.map List.reverse := by
  obtain ⟨result, hresumes, hrun⟩ := Traversal.exists_resumes hg (Traversal.inv_start g roots)
  cases hresumes with
  | roots hroots => exact ⟨result, hroots, hrun⟩

theorem postOrder_eq_of_explores (hg : g.Closed) (h : g.Explores [] [] roots result) :
    g.postOrder roots = result.map List.reverse := by
  obtain ⟨result', hresult', he⟩ := exists_explores hg roots
  rw [he, h.unique hresult']

end Graph

end Rebuild
