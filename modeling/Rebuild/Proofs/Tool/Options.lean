import Rebuild.Tool.Options

/-!
# Programs without options

`Does` says that a program goes well, with a result, and what it leaves; where one action follows another, so does what
they do (`Does.bind`). Words that are no options are the operands of a program (`sortedWords_operands`), and a program
that has no others is given them as they are, without having done anything yet (`does_readOptions`).
-/

namespace Rebuild.Tool

variable {α : Type} {β : Type} {p p' p'' : Process}

/-! ## What programs do -/

/-- A program goes well, with a result, and leaves a process. -/
def Does (x : ToolM α) (p : Process) (a : α) (p' : Process) : Prop :=
  x p = (.ok a, p')

namespace Does

theorem pure (a : α) (p : Process) : Does (Pure.pure a) p a p := rfl

theorem bind {x : ToolM α} {f : α → ToolM β} {a : α} {b : β} (h : Does x p a p') (hf : Does (f a) p' b p'') :
    Does (x >>= f) p b p'' := by
  show ExceptT.bindCont f (x p).1 (x p).2 = _
  rw [show x p = _ from h]
  exact hf

/-- An action of the process, as one of a program. -/
theorem lift {x : ProcessM α} {a : α} (h : x p = (a, p')) : Does (liftM x) p a p' := by
  show ((Except.ok (x p).1 : Except ExitStatus α), (x p).2) = _
  rw [h]

/-- Actions on what members of a list stand for, none of which changes the process. -/
theorem foldlM_map {γ σ : Type} {g : γ → α} {f : σ → α → ToolM σ} {step : σ → γ → σ}
    (h : ∀ state c, Does (f state (g c)) p (step state c) p) (cs : List γ) (state : σ) :
    Does ((cs.map g).foldlM f state) p (cs.foldl step state) p := by
  induction cs generalizing state with
  | nil => exact .pure state p
  | cons c cs ih =>
    rw [List.map_cons, List.foldlM_cons]
    exact .bind (h state c) (ih (step state c))

end Does

theorem does_disk (p : Process) : Does disk p p.disk p := rfl

/-! ## Operands -/

/-- A word that is no option: it does not begin with a dash, or is nothing else. -/
def IsOperand (w : String) : Prop :=
  ∀ c cs, w.toList ≠ '-' :: c :: cs

theorem sort_operands {rules : List OptionRule} {ws : List String} (h : ∀ w ∈ ws, IsOperand w) {limit : Nat}
    (hlimit : ws.length ≤ limit) (found : List SortedWord) :
    Sorting.sort rules false limit ⟨found, none⟩ ws = ⟨ws.reverse.map .operand ++ found, none⟩ := by
  induction ws generalizing limit found with
  | nil => cases limit <;> rfl
  | cons w ws ih =>
    obtain ⟨hw, hws⟩ := List.forall_mem_cons.mp h
    cases limit with
    | zero => cases hlimit
    | succ limit =>
      unfold Sorting.sort
      dsimp only
      rw [if_neg (by simp)]
      split
      · next heq => exact absurd heq (hw _ _)
      · next heq => exact absurd heq (hw _ _)
      · next heq => exact absurd heq (hw _ _)
      · rw [if_neg Bool.false_ne_true]
        refine (ih hws (Nat.le_of_succ_le_succ hlimit) (.operand w :: found)).trans ?_
        simp

/-- **Words that are no options are operands.** -/
theorem sortedWords_operands {ws : List String} (h : ∀ w ∈ ws, IsOperand w) (rules : List OptionRule) :
    sortedWords rules false ws = (ws.map .operand, none) := by
  unfold sortedWords
  rw [sort_operands h (Nat.le_refl _)]
  simp

theorem foldl_operands {σ : Type} (start : σ) (operands ws : List String) :
    ws.foldl (fun (state : σ × List String) w => (state.1, w :: state.2)) (start, operands) =
      (start, ws.reverse ++ operands) := by
  induction ws generalizing operands with
  | nil => rfl
  | cons w ws ih => rw [List.foldl_cons, ih, List.reverse_cons, List.append_assoc, List.singleton_append]

section

variable {ws : List String} (h : ∀ w ∈ ws, IsOperand w) (rules : List OptionRule) (name : String) (code : Nat)
  (p : Process)
include h

theorem does_foldOptions {σ : Type} (start : σ) (take : σ → Given → ToolM σ) :
    Does (foldOptions name rules false code ws start take) p (start, ws) p := by
  unfold foldOptions foldWords
  rw [sortedWords_operands h]
  refine .bind (.bind (show Does _ p (start, ws.reverse) p from ?_) (.pure _ p)) ?_
  · have hfold := foldl_operands start [] ws
    rw [List.append_nil] at hfold
    rw [← hfold]
    exact .foldlM_map (g := SortedWord.operand) (fun state w => .pure (state.1, w :: state.2) p) ws (start, [])
  · dsimp only
    rw [List.reverse_reverse]
    exact .pure _ p

/-- **A program with no options is given its operands.** -/
theorem does_readOptions : Does (readOptions name rules false code ws) p ([], ws) p := by
  unfold readOptions
  exact .bind (does_foldOptions h rules name code p [] _) (.pure _ p)

end

end Rebuild.Tool
