import Rebuild.Proofs.Files
import Rebuild.Rehearsal

/-!
# What rehearsed commands do to files

Unless it follows a script, a rehearsed command leaves the store as it is or writes its target (`run_cases`). What it
writes is the bytes of its dependencies, one after the other (`joins_of_contents`), and depends on these alone
(`contents_congr`).
-/

namespace Rebuild

/-- Whether a command writes its dependencies to its target. -/
def Behaviour.IsProduce (b : Behaviour) : Prop :=
  ∃ stderr, b = .produce stderr

/-- Whether a command writes at most its target. -/
def Behaviour.IsPlain : Behaviour → Prop
  | .script _ _ => False
  | _ => True

theorem Behaviour.IsProduce.isPlain {b : Behaviour} (h : b.IsProduce) : b.IsPlain := by
  obtain ⟨_, rfl⟩ := h
  exact trivial

/-- The bytes are those of the files of some names, one after the other. -/
def Store.Joins (s : Store) (root : String) (names : List Name) (content : ByteArray) : Prop :=
  ∃ parts : List ByteArray, names.map (fun name => s.content? (Path.join root name)) = parts.map some ∧
    content = parts.foldr (· ++ ·) .empty

/-! ## Reading dependencies -/

namespace Rehearsal

variable {s s' : Store} {root : String} {deps : List Name} {content : ByteArray}

theorem contents_cons {dep : Name} : contents s root (dep :: deps) = .ok content ↔
    ∃ text rest, s.readText (Path.join root dep) = .ok text ∧ contents s root deps = .ok rest ∧
      content = text.toByteArray ++ rest := by
  rw [contents]
  cases s.readText (Path.join root dep) with
  | error fault => simp
  | ok text =>
    cases contents s root deps with
    | error fault => simp [Except.map]
    | ok rest => simp [Except.map, eq_comm]

/-- What a command reads is the bytes of its dependencies, one after the other. -/
theorem joins_of_contents (h : contents s root deps = .ok content) : s.Joins root deps content := by
  induction deps generalizing content with
  | nil => cases h; exact ⟨[], rfl, rfl⟩
  | cons dep deps ih =>
    obtain ⟨text, rest, htext, hrest, rfl⟩ := contents_cons.mp h
    obtain ⟨parts, hparts, rfl⟩ := ih hrest
    exact ⟨text.toByteArray :: parts, by simp [hparts, Store.readText_eq_ok_iff.mp htext], rfl⟩

/-- What a command has read is there. -/
theorem isSome_of_contents (h : contents s root deps = .ok content) : ∀ dep ∈ deps, (s.fileOf? root dep).isSome := by
  induction deps generalizing content with
  | nil => simp
  | cons dep deps ih =>
    obtain ⟨text, rest, htext, hrest, _⟩ := contents_cons.mp h
    obtain ⟨file, hfile, _⟩ := Option.map_eq_some_iff.mp (Store.readText_eq_ok_iff.mp htext)
    have hthere : s.fileOf? root dep = some file := hfile
    exact List.forall_mem_cons.mpr ⟨by rw [hthere]; rfl, ih hrest⟩

/-- What a command reads depends on the bytes of the dependencies alone. -/
theorem contents_congr (h : ∀ dep ∈ deps, s.content? (Path.join root dep) = s'.content? (Path.join root dep)) :
    contents s root deps = contents s' root deps := by
  induction deps with
  | nil => rfl
  | cons dep deps ih =>
    rw [contents, contents, ih fun d hd => h d (List.mem_cons_of_mem _ hd)]
    unfold Store.readText
    rw [h dep List.mem_cons_self]

/-! ## Running commands -/

/-- A command without a script leaves the store as it is, or writes to its target what it read. -/
theorem run_cases {b : Behaviour} (hb : b.IsPlain) (i : Invocation) (s : Store) :
    (run b i s).2 = s ∨ ∃ content, contents s i.cwd i.deps = .ok content ∧
      (run b i s).2 = s.write (Path.join i.cwd i.target) content := by
  cases b with
  | script edits ending => cases hb
  | produce stderr =>
    unfold run
    cases hc : contents s i.cwd i.deps with
    | error fault => exact Or.inl rfl
    | ok content => exact Or.inr ⟨content, rfl, rfl⟩
  | _ => exact Or.inl rfl

/-- A command that produces its target and ends well has written to it what it read. -/
theorem run_produce {b : Behaviour} (hb : b.IsProduce) {i : Invocation} {s : Store} {output : Output}
    (h : (run b i s).1 = .ok output) :
    ∃ content, contents s i.cwd i.deps = .ok content ∧ (run b i s).2 = s.write (Path.join i.cwd i.target) content := by
  obtain ⟨stderr, rfl⟩ := hb
  unfold run at h ⊢
  dsimp only at h ⊢
  cases hc : contents s i.cwd i.deps with
  | error fault => rw [hc] at h; cases h
  | ok content => exact ⟨content, rfl, rfl⟩

/-- A producing command that can read its dependencies ends well, and writes to its target what it read. -/
theorem runner_of_contents {r : Rehearsal} {i : Invocation} (hb : (r i.target).IsProduce)
    (h : contents s i.cwd i.deps = .ok content) : ∃ output, output.status = .exited 0 ∧
      r.runner i s = (.ok output, s.write (Path.join i.cwd i.target) content) := by
  obtain ⟨stderr, hb⟩ := hb
  refine ⟨⟨.exited 0, "", stderr⟩, rfl, ?_⟩
  unfold runner run
  rw [hb]
  dsimp only
  rw [h]

/-- A command without a script keeps all files but that of its target. -/
theorem keepsOthers {r : Rehearsal} {i : Invocation} (h : (r i.target).IsPlain) (s : Store) :
    r.runner.KeepsOthers i s := by
  intro path hpath
  show (run (r i.target) i s).2.get? path = s.get? path
  rcases run_cases h i s with he | ⟨content, _, he⟩
  · rw [he]
  · rw [he, Store.get?_write, if_neg (Ne.symm hpath)]

theorem isProduce_usual (name : Name) : (usual name).IsProduce :=
  ⟨"", rfl⟩

end Rehearsal

end Rebuild
