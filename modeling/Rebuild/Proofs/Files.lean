import Rebuild.Command
import Rebuild.Store

/-!
# The files of names

A build sees the files of a store under the names of its rules, each joined to the build root. The lemmas say what a
write to the file of one name does to the files of all names, and that no file of a store is later than its clock, after
whatever edits (`clocked_applyAll`).
-/

namespace Rebuild

/-! ## Worlds with a store -/

/-- Worlds in which the files are those of a store. What else such a world holds is for the commands alone. -/
class StoreView (σ : Type u) extends FileView σ where
  store : σ → Store
  isThere_eq (w : σ) (path : String) : isThere w path = ((store w).get? path).isSome
  modified_eq (w : σ) (path : String) : modified w path = .ok ((store w).modified? path)
  readText_eq (w : σ) (path : String) : readText w path = (store w).readText path

instance : StoreView Store where
  store := id
  isThere_eq _ _ := rfl
  modified_eq _ _ := rfl
  readText_eq _ _ := rfl

/-- A store, and what the commands keep for themselves. -/
instance {τ : Type u} : StoreView (Store × τ) where
  isThere w := FileView.isThere w.1
  modified w := FileView.modified w.1
  readText w := FileView.readText w.1
  store := Prod.fst
  isThere_eq _ _ := rfl
  modified_eq _ _ := rfl
  readText_eq _ _ := rfl

@[simp] theorem StoreView.store_self (s : Store) : StoreView.store s = s := rfl

/-! ## Names as files -/

/-- The file of a name below a root. -/
def Store.fileOf? (s : Store) (root : String) (name : Name) : Option File :=
  s.get? (Path.join root name)

/-- Whether the command of an invocation, run in a world, leaves every file but that of its target as it is. -/
def Runner.KeepsOthers {σ : Type u} [StoreView σ] (runner : Runner σ) (i : Invocation) (w : σ) : Prop :=
  ∀ path, Path.normal path ≠ Path.normal (Path.join i.cwd i.target) →
    (StoreView.store (runner i w).2).get? path = (StoreView.store w).get? path

namespace RuleSet

/-- The names that occur in the rules, as targets or as dependencies. -/
def names (rules : RuleSet) : List Name :=
  rules.targets.flatMap fun t => t.name :: t.deps

/-- Different names of the rules are different files below a root. -/
def Distinct (rules : RuleSet) (root : String) : Prop :=
  ∀ a ∈ rules.names, ∀ b ∈ rules.names, Path.normal (Path.join root a) = Path.normal (Path.join root b) → a = b

instance (rules : RuleSet) (root : String) : Decidable (rules.Distinct root) :=
  inferInstanceAs (Decidable (∀ a ∈ rules.names, ∀ b ∈ rules.names, _ → a = b))

variable {rules : RuleSet} {root : String}

theorem name_mem_names {t : Target} (h : t ∈ rules.targets) : t.name ∈ rules.names :=
  List.mem_flatMap.mpr ⟨t, h, List.mem_cons_self⟩

theorem dep_mem_names {t : Target} (h : t ∈ rules.targets) {dep : Name} (hd : dep ∈ t.deps) : dep ∈ rules.names :=
  List.mem_flatMap.mpr ⟨t, h, List.mem_cons_of_mem _ hd⟩

/-- Writing the file of a name changes this file alone. -/
theorem Distinct.fileOf?_write (hd : rules.Distinct root) (s : Store) (content : ByteArray) {a b : Name}
    (ha : a ∈ rules.names) (hb : b ∈ rules.names) :
    (s.write (Path.join root a) content).fileOf? root b =
      if a = b then some ⟨content, s.clock + 1⟩ else s.fileOf? root b := by
  unfold Store.fileOf?
  rw [Store.get?_write]
  by_cases h : a = b
  · subst h; rw [if_pos rfl, if_pos rfl]
  · rw [if_neg h, if_neg fun e => h (hd a ha b hb e)]

/-- A command that keeps all files but that of its target keeps the files of the other names. -/
theorem Distinct.fileOf?_command {σ : Type u} [StoreView σ] (hd : rules.Distinct root) {runner : Runner σ} {w : σ}
    {i : Invocation} (hk : runner.KeepsOthers i w) (hcwd : i.cwd = root) (hi : i.target ∈ rules.names) {name : Name}
    (hn : name ∈ rules.names) (hne : name ≠ i.target) :
    (StoreView.store (runner i w).2).fileOf? root name = (StoreView.store w).fileOf? root name :=
  hk _ fun e => hne (hd name hn i.target hi (by rw [e, hcwd]))

/-- Two rules: `C` is made from `B`, and `B` from the leaf `A`. -/
def chain : RuleSet where
  targets := [⟨"B", ["A"], "cat", ["A"]⟩, ⟨"C", ["B"], "cat", ["B"]⟩]
  names_nodup := by decide
  deps_ne_nil := by decide

theorem chain_distinct : chain.Distinct "." := by decide +kernel

end RuleSet

/-! ## Texts of files -/

/-- The text of a file is read exactly if the file holds the bytes of this text. -/
theorem Store.readText_eq_ok_iff {s : Store} {path text : String} :
    s.readText path = .ok text ↔ s.content? path = some text.toByteArray := by
  unfold readText
  cases s.content? path with
  | none => simp
  | some content =>
    dsimp only
    rw [Option.some.injEq]
    by_cases h : content.IsValidUTF8
    · have htext : String.fromUTF8? content = some (String.fromUTF8 content h) := dif_pos h
      rw [htext]
      constructor
      · intro heq
        cases heq
        rfl
      · rintro rfl
        rfl
    · have htext : String.fromUTF8? content = none := dif_neg h
      rw [htext]
      refine iff_of_false (fun heq => nomatch heq) ?_
      rintro rfl
      exact h text.isValidUTF8

/-! ## Times and the clock -/

namespace Store

/-- No file is later than the clock. -/
def Clocked (s : Store) : Prop :=
  ∀ path file, s.get? path = some file → file.modified ≤ s.clock

theorem clocked_empty : empty.Clocked := fun path file h => by
  rw [get?_empty] at h
  cases h

theorem Clocked.write {s : Store} (h : s.Clocked) (path : String) (content : ByteArray) :
    (s.write path content).Clocked := by
  intro p file hp
  rw [get?_write] at hp
  split at hp
  · cases hp; exact Nat.le_refl _
  · exact Nat.le_succ_of_le (h p file hp)

theorem Clocked.stamp {s : Store} (h : s.Clocked) (path : String) (time : Time) : (s.stamp path time).Clocked := by
  intro p file hp
  rw [get?_stamp] at hp
  split at hp
  · obtain ⟨_, _, rfl⟩ := Option.map_eq_some_iff.mp hp
    exact Nat.le_max_right _ _
  · exact Nat.le_trans (h p file hp) (Nat.le_max_left _ _)

theorem Clocked.remove {s : Store} (h : s.Clocked) (path : String) : (s.remove path).Clocked := by
  intro p file hp
  rw [get?_remove] at hp
  split at hp
  · cases hp
  · exact h p file hp

theorem Clocked.apply {s : Store} (h : s.Clocked) : ∀ edit, (s.apply edit).Clocked
  | .write path content => h.write path content
  | .stamp path time => h.stamp path time
  | .remove path => h.remove path

theorem Clocked.applyAll {s : Store} (h : s.Clocked) (edits : List Edit) : (s.applyAll edits).Clocked := by
  induction edits generalizing s with
  | nil => exact h
  | cons edit edits ih => exact ih (h.apply edit)

/-- After any edits of no files, no file is later than the clock. -/
theorem clocked_applyAll (edits : List Edit) : (empty.applyAll edits).Clocked :=
  clocked_empty.applyAll edits

end Store

end Rebuild
