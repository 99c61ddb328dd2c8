import Mathlib.Data.List.Induction
import Rebuild.Proofs.Files
import Rebuild.Proofs.Path

/-!
# Files after edits

- An edit changes at most the file at its own path (`get?_apply_of_not_concerns`), and the clock never goes back
  (`clock_le_applyAll`);
- files lie under normal forms of paths (`normal_of_getElem?_applyAll`), so none is later than the clock and the next
  one written is later than all of them;
- what a file holds is told by the last write at its path, and its time by this write and the stamps after it (`Told`,
  with one lemma for each edit, and `get?_applyAll_iff`); edits at other paths may be left out
  (`content?_applyAll_filter`).

Together: `files_follow_edits`.
-/

namespace Rebuild.Store

/-! ## One edit -/

namespace Edit

/-- The path that an edit is about. -/
def path : Edit → String
  | .write path _ => path
  | .stamp path _ => path
  | .remove path => path

/-- The edit is about the file at a path. -/
def Concerns (e : Edit) (path : String) : Prop :=
  Path.normal e.path = Path.normal path

instance (e : Edit) (path : String) : Decidable (e.Concerns path) :=
  inferInstanceAs (Decidable (_ = _))

/-- What becomes of a file, if it is there, by an edit about it when the clock shows this time. -/
def revise (e : Edit) (clock : Time) (file : Option File) : Option File :=
  match e with
  | .write _ content => some ⟨content, clock + 1⟩
  | .stamp _ time => file.map ({ · with modified := time })
  | .remove _ => none

/-- The edit sets a time and leaves what is there. -/
def IsStamp : Edit → Prop
  | .stamp _ _ => True
  | _ => False

instance : (e : Edit) → Decidable e.IsStamp
  | .write _ _ => .isFalse id
  | .stamp _ _ => .isTrue trivial
  | .remove _ => .isFalse id

/-- The time that an edit sets for the file at a path, if it does. -/
def timeAt? (path : String) : Edit → Option Time
  | .stamp p time => if Path.normal p = Path.normal path then some time else none
  | _ => none

theorem timeAt?_of_not_concerns {e : Edit} {path : String} (h : ¬e.Concerns path) : e.timeAt? path = none := by
  cases e with
  | stamp p time => exact if_neg h
  | write => rfl
  | remove => rfl

end Edit

variable {s s' : Store} {e : Edit} {path : String}

/-- An edit leaves the files alone that it is not about. -/
theorem get?_apply_of_not_concerns (h : ¬e.Concerns path) : (s.apply e).get? path = s.get? path := by
  cases e with
  | write p content => exact (get?_write s p content path).trans (if_neg h)
  | stamp p time => exact (get?_stamp s p time path).trans (if_neg h)
  | remove p => exact (get?_remove s p path).trans (if_neg h)

theorem get?_apply_of_concerns (h : e.Concerns path) : (s.apply e).get? path = e.revise s.clock (s.get? path) := by
  cases e with
  | write p content => exact (get?_write s p content path).trans (if_pos h)
  | stamp p time => exact (get?_stamp s p time path).trans (if_pos h)
  | remove p => exact (get?_remove s p path).trans (if_pos h)

theorem content?_apply_of_not_concerns (h : ¬e.Concerns path) : (s.apply e).content? path = s.content? path :=
  congrArg (Option.map File.content) (get?_apply_of_not_concerns h)

/-- What a path holds after an edit depends on the edit and on what it held before. -/
theorem content?_apply_congr (h : s.content? path = s'.content? path) :
    (s.apply e).content? path = (s'.apply e).content? path := by
  by_cases hc : e.Concerns path
  · unfold content? at h ⊢
    rw [get?_apply_of_concerns hc, get?_apply_of_concerns hc]
    cases e with
    | write => rfl
    | stamp =>
      rw [Edit.revise, Edit.revise, Option.map_map, Option.map_map]
      exact h
    | remove => rfl
  · rw [content?_apply_of_not_concerns hc, content?_apply_of_not_concerns hc, h]

/-! ## The clock and the times -/

theorem clock_le_apply (s : Store) (e : Edit) : s.clock ≤ (s.apply e).clock := by
  cases e with
  | write => exact Nat.le_succ _
  | stamp => exact Nat.le_max_left _ _
  | remove => exact Nat.le_refl _

theorem clock_le_applyAll (s : Store) (edits : List Edit) : s.clock ≤ (s.applyAll edits).clock := by
  induction edits generalizing s with
  | nil => exact Nat.le_refl _
  | cons e edits ih => exact Nat.le_trans (clock_le_apply s e) (ih (s.apply e))

/-- Every file lies under the normal form of its path. -/
def InNormalForm (s : Store) : Prop :=
  ∀ key file, s.files[key]? = some file → Path.normal key = key

theorem inNormalForm_insert {key : String} {file : File} (h : s.InNormalForm) (clock : Time) :
    (Store.mk clock (s.files.insert (Path.normal key) file)).InNormalForm := by
  intro k f hk
  rw [Std.ExtTreeMap.getElem?_insert] at hk
  split at hk
  · next heq =>
    rw [← Std.LawfulEqCmp.eq_of_compare heq]
    exact Path.normal_normal key
  · exact h k f hk

theorem InNormalForm.apply (h : s.InNormalForm) (e : Edit) : (s.apply e).InNormalForm := by
  cases e with
  | write p content => exact inNormalForm_insert h _
  | stamp p time =>
    show (s.stamp p time).InNormalForm
    unfold stamp
    cases s.get? p with
    | none => exact h
    | some file => exact inNormalForm_insert h _
  | remove p =>
    intro k f hk
    have herase : (s.files.erase (Path.normal p))[k]? = some f := hk
    rw [Std.ExtTreeMap.getElem?_erase] at herase
    split at herase
    · cases herase
    · exact h k f herase

theorem normal_of_getElem?_applyAll (edits : List Edit) : (empty.applyAll edits).InNormalForm := by
  suffices hall : ∀ s : Store, s.InNormalForm → (s.applyAll edits).InNormalForm from
    hall empty fun key file h => by simp [empty] at h
  induction edits with
  | nil => exact fun _ h => h
  | cons e edits ih => exact fun s h => ih (s.apply e) (h.apply e)

/-- A file is stored, at whatever path. -/
def Stored (s : Store) (file : File) : Prop :=
  ∃ key : String, s.files[key]? = some file

/-- No file that is stored is later than the clock. -/
theorem modified_le_clock (edits : List Edit) {file : File} (hstored : (empty.applyAll edits).Stored file) :
    file.modified ≤ (empty.applyAll edits).clock := by
  obtain ⟨key, h⟩ := hstored
  have hkey := normal_of_getElem?_applyAll edits key file h
  refine clocked_applyAll edits key file ?_
  rw [get?, hkey]
  exact h

/-! ## The last write -/

/-- Among edits, the last write at a path, with the edits before it and those after it. -/
structure LastWrite (edits : List Edit) (path : String) (before : List Edit) (content : ByteArray)
    (after : List Edit) : Prop where
  split : ∃ p, Path.normal p = Path.normal path ∧ edits = before ++ .write p content :: after
  kept : ∀ e ∈ after, e.Concerns path → e.IsStamp

/-- The time of the last stamp at a path. -/
def lastStamp? (edits : List Edit) (path : String) : Option Time :=
  (edits.filterMap (Edit.timeAt? path)).getLast?

variable {edits before after : List Edit} {content : ByteArray} {time : Time}

theorem applyAll_concat (s : Store) (edits : List Edit) (e : Edit) :
    s.applyAll (edits ++ [e]) = (s.applyAll edits).apply e := by
  simp [applyAll]

/-- One edit more is the last write itself, or comes after it and leaves its file there. -/
theorem lastWrite_concat_iff : LastWrite (edits ++ [e]) path before content after ↔
    (∃ p, Path.normal p = Path.normal path ∧ e = .write p content ∧ before = edits ∧ after = []) ∨
      ∃ rest, after = rest ++ [e] ∧ LastWrite edits path before content rest ∧ (e.Concerns path → e.IsStamp) := by
  constructor
  · rintro ⟨⟨p, hp, hsplit⟩, hkept⟩
    rcases List.eq_nil_or_concat after with rfl | ⟨rest, last, hafter⟩
    · obtain ⟨hbefore, he⟩ := List.append_inj' hsplit rfl
      cases he
      exact Or.inl ⟨p, hp, rfl, hbefore.symm, rfl⟩
    · rw [List.concat_eq_append] at hafter
      subst hafter
      rw [← List.cons_append, ← List.append_assoc] at hsplit
      obtain ⟨hedits, he⟩ := List.append_inj' hsplit rfl
      cases he
      obtain ⟨hrest, hlast⟩ := List.forall_mem_append.mp hkept
      exact Or.inr ⟨rest, rfl, ⟨⟨p, hp, hedits⟩, hrest⟩, hlast e (List.mem_singleton_self e)⟩
  · rintro (⟨p, hp, rfl, rfl, rfl⟩ | ⟨rest, rfl, ⟨⟨p, hp, rfl⟩, hkept⟩, he⟩)
    · exact ⟨⟨p, hp, rfl⟩, by simp⟩
    · refine ⟨⟨p, hp, by simp⟩, List.forall_mem_append.mpr ⟨hkept, ?_⟩⟩
      intro e' he'
      rw [List.mem_singleton.mp he']
      exact he

theorem lastStamp?_concat (edits : List Edit) (e : Edit) (path : String) :
    lastStamp? (edits ++ [e]) path = (e.timeAt? path).or (lastStamp? edits path) := by
  unfold lastStamp?
  rw [List.filterMap_append]
  cases h : e.timeAt? path with
  | none => simp [h]
  | some time => simp [h]

/-- The time that the last write and the stamps after it give to a file. -/
def timeOf (before after : List Edit) (path : String) : Time :=
  (lastStamp? after path).getD ((empty.applyAll before).clock + 1)

theorem timeOf_concat_stamp {p : String} {new : Time} (h : (Edit.stamp p new).Concerns path) (before rest : List Edit) :
    timeOf before (rest ++ [.stamp p new]) path = new := by
  have hnew : (Edit.stamp p new).timeAt? path = some new := if_pos h
  rw [timeOf, lastStamp?_concat, hnew]
  rfl

theorem timeOf_concat_of_not_concerns (h : ¬e.Concerns path) (before rest : List Edit) :
    timeOf before (rest ++ [e]) path = timeOf before rest path := by
  rw [timeOf, lastStamp?_concat, Edit.timeAt?_of_not_concerns h, Option.none_or]
  rfl

/-- Edits tell that a path holds a file: its content is that of the last write, and its time follows from this write and
the stamps after it. -/
def Told (edits : List Edit) (path : String) (content : ByteArray) (time : Time) : Prop :=
  ∃ before after, LastWrite edits path before content after ∧ time = timeOf before after path

theorem not_told_nil : ¬Told [] path content time := by
  rintro ⟨before, after, ⟨⟨p, _, hsplit⟩, _⟩, _⟩
  simp at hsplit

/-- A write at the path is the last one. -/
theorem told_concat_write {p : String} {written : ByteArray} (h : (Edit.write p written).Concerns path) :
    Told (edits ++ [.write p written]) path content time ↔
      content = written ∧ time = (empty.applyAll edits).clock + 1 := by
  constructor
  · rintro ⟨before, after, hlast, rfl⟩
    rcases lastWrite_concat_iff.mp hlast with ⟨_, _, he, rfl, rfl⟩ | ⟨_, _, _, hstamp⟩
    · cases he
      exact ⟨rfl, rfl⟩
    · exact absurd (hstamp h) id
  · rintro ⟨rfl, rfl⟩
    exact ⟨edits, [], lastWrite_concat_iff.mpr (Or.inl ⟨p, h, rfl, rfl, rfl⟩), rfl⟩

/-- A stamp at the path leaves the last write as it is, and gives the time. -/
theorem told_concat_stamp {p : String} {new : Time} (h : (Edit.stamp p new).Concerns path) :
    Told (edits ++ [.stamp p new]) path content time ↔ time = new ∧ ∃ old, Told edits path content old := by
  constructor
  · rintro ⟨before, after, hlast, rfl⟩
    rcases lastWrite_concat_iff.mp hlast with ⟨_, _, he, _⟩ | ⟨rest, rfl, hrest, _⟩
    · cases he
    · exact ⟨timeOf_concat_stamp h before rest, _, before, rest, hrest, rfl⟩
  · rintro ⟨rfl, _, before, after, hlast, _⟩
    refine ⟨before, after ++ [.stamp p time], ?_, (timeOf_concat_stamp h before after).symm⟩
    exact lastWrite_concat_iff.mpr (Or.inr ⟨after, rfl, hlast, fun _ => trivial⟩)

/-- After a removal at the path there is no last write. -/
theorem not_told_concat_remove {p : String} (h : (Edit.remove p).Concerns path) :
    ¬Told (edits ++ [.remove p]) path content time := by
  rintro ⟨before, after, hlast, _⟩
  rcases lastWrite_concat_iff.mp hlast with ⟨_, _, he, _⟩ | ⟨_, _, _, hstamp⟩
  · cases he
  · exact hstamp h

/-- An edit at another path comes after the last write and sets no time. -/
theorem told_concat_of_not_concerns (h : ¬e.Concerns path) :
    Told (edits ++ [e]) path content time ↔ Told edits path content time := by
  constructor
  · rintro ⟨before, after, hlast, rfl⟩
    rcases lastWrite_concat_iff.mp hlast with ⟨p, hp, rfl, _⟩ | ⟨rest, rfl, hrest, _⟩
    · exact absurd hp h
    · exact ⟨before, rest, hrest, timeOf_concat_of_not_concerns h before rest⟩
  · rintro ⟨before, after, hlast, rfl⟩
    refine ⟨before, after ++ [e], ?_, (timeOf_concat_of_not_concerns h before after).symm⟩
    exact lastWrite_concat_iff.mpr (Or.inr ⟨after, rfl, hlast, fun hc => absurd hc h⟩)

/-- **What a path holds after edits.** It holds what the last write there has put, unless a removal came later; its time
is that of the last stamp since, or the tick of the clock at which it was written. -/
theorem get?_applyAll_iff : (empty.applyAll edits).get? path = some ⟨content, time⟩ ↔ Told edits path content time := by
  induction edits using List.reverseRecOn generalizing content time with
  | nil => exact iff_of_false (by simp [applyAll]) not_told_nil
  | append_singleton edits e ih =>
    rw [applyAll_concat]
    by_cases hc : e.Concerns path
    · rw [get?_apply_of_concerns hc]
      cases e with
      | write p written =>
        rw [told_concat_write hc, Edit.revise, Option.some.injEq, File.mk.injEq]
        exact and_congr eq_comm eq_comm
      | stamp p new =>
        rw [told_concat_stamp hc, Edit.revise, Option.map_eq_some_iff]
        constructor
        · rintro ⟨⟨bytes, old⟩, hfile, heq⟩
          obtain ⟨rfl, rfl⟩ := File.mk.inj heq
          exact ⟨rfl, old, ih.mp hfile⟩
        · rintro ⟨rfl, old, htold⟩
          exact ⟨⟨content, old⟩, ih.mpr htold, rfl⟩
      | remove p => exact iff_of_false (fun h => nomatch h) (not_told_concat_remove hc)
    · rw [get?_apply_of_not_concerns hc, told_concat_of_not_concerns hc, ih]

/-- What a path holds does not depend on edits at other paths. -/
theorem content?_applyAll_filter (edits : List Edit) (path : String) :
    (empty.applyAll (edits.filter (·.Concerns path))).content? path = (empty.applyAll edits).content? path := by
  induction edits using List.reverseRecOn with
  | nil => rfl
  | append_singleton edits e ih =>
    rw [List.filter_append, applyAll_concat]
    by_cases hc : e.Concerns path
    · have hone : [e].filter (·.Concerns path) = [e] := by simp [hc]
      rw [hone, applyAll_concat]
      exact content?_apply_congr ih
    · have hnone : [e].filter (·.Concerns path) = [] := by simp [hc]
      rw [hnone, List.append_nil, ih, content?_apply_of_not_concerns hc]

/-- The bytes and the time of a file are there together. -/
theorem get?_eq_some_iff {s : Store} : s.get? path = some ⟨content, time⟩ ↔
    s.content? path = some content ∧ s.modified? path = some time := by
  unfold content? modified?
  cases s.get? path with
  | none => simp
  | some file =>
    obtain ⟨bytes, modified⟩ := file
    simp

/-! ## All edits -/

/-- **The files after edits.** Take any edits of no files.
- No file is later than the clock, the clock never goes back, and a write gives its file a time that is later than that
  of all files then there.
- That something is at a path, that it has a time and that it has bytes is all one. It depends on the edits alone whose
  paths have the normal form of this path: the bytes are those of the last write, if no removal came after it, and the
  time is that of the last stamp since, or else that of the write. Edits at other paths leave both as they are.
- A text is read exactly if the file is there and its bytes are UTF-8, and is the text of these bytes.
- Two paths have one normal form if both start at the root, or neither does, and they have the same components: the
  pieces between slashes that are neither empty nor a single dot. -/
theorem files_follow_edits (edits : List Edit) :
    let s := empty.applyAll edits
    (∀ file, s.Stored file → file.modified ≤ s.clock) ∧
    (∀ more, s.clock ≤ (s.applyAll more).clock) ∧
    (∀ path content, ∃ time, (s.write path content).modified? path = some time ∧
      ∀ file, s.Stored file → file.modified < time) ∧
    (∀ path, FileView.isThere s path = (s.content? path).isSome ∧ FileView.modified s path = .ok (s.modified? path) ∧
      (s.modified? path).isSome = (s.content? path).isSome) ∧
    (∀ path, (empty.applyAll (edits.filter (·.Concerns path))).content? path = s.content? path) ∧
    (∀ path content time, s.content? path = some content ∧ s.modified? path = some time ↔
      ∃ before after, LastWrite edits path before content after ∧ time = timeOf before after path) ∧
    (∀ e path, ¬e.Concerns path →
      (s.apply e).content? path = s.content? path ∧ (s.apply e).modified? path = s.modified? path) ∧
    (∀ path text, FileView.readText s path = .ok text ↔ s.content? path = some text.toByteArray) ∧
    (∀ path, (∃ text, FileView.readText s path = .ok text) ↔
      ∃ content, s.content? path = some content ∧ content.IsValidUTF8) ∧
    (∀ p q, Path.normal p = Path.normal q ↔
      Path.isAbsolute p = Path.isAbsolute q ∧ Path.components p = Path.components q) ∧
    (∀ p q, Path.components (p ++ "/" ++ q) = Path.components p ++ Path.components q) ∧
    ∀ piece, '/' ∉ piece.toList → Path.components piece = if piece = "" ∨ piece = "." then [] else [piece] := by
  intro s
  refine ⟨fun file => modified_le_clock edits, clock_le_applyAll s, ?_, ?_, content?_applyAll_filter edits, ?_, ?_,
    fun path text => readText_eq_ok_iff, ?_, fun p q => Path.normal_eq_iff, Path.components_append_slash,
    fun piece => Path.components_piece⟩
  · intro path content
    refine ⟨s.clock + 1, ?_, fun file h => Nat.lt_succ_of_le (modified_le_clock edits h)⟩
    rw [modified?, get?_write, if_pos rfl]
    rfl
  · intro path
    refine ⟨?_, rfl, ?_⟩
    · rw [content?, Option.isSome_map]
      rfl
    · rw [content?, modified?, Option.isSome_map, Option.isSome_map]
  · intro path content time
    rw [← get?_eq_some_iff]
    exact get?_applyAll_iff
  · intro e path h
    exact ⟨content?_apply_of_not_concerns h, congrArg (Option.map File.modified) (get?_apply_of_not_concerns h)⟩
  · intro path
    constructor
    · rintro ⟨text, htext⟩
      exact ⟨text.toByteArray, readText_eq_ok_iff.mp htext, text.isValidUTF8⟩
    · rintro ⟨content, hcontent, hvalid⟩
      exact ⟨String.fromUTF8 content hvalid, readText_eq_ok_iff.mpr hcontent⟩

/-- A file is written, set back and left alone by later edits, of which one is about no file and moves the clock. -/
theorem files_follow_edits_set_back :
    let after : List Edit := [.stamp "A/./b" 100, .stamp "ghost" 300, .write "../b" "up".toByteArray, .remove "../b/"]
    let edits := .write "./A//b/" "x".toByteArray :: after
    let s := empty.applyAll edits
    LastWrite edits "A/b" [] "x".toByteArray after ∧ s.content? "A/b" = some "x".toByteArray ∧
      s.modified? "A/b" = some 100 ∧ FileView.readText s "A/b" = .ok "x" ∧
      s.Stored ⟨"x".toByteArray, 100⟩ ∧ 100 ≤ s.clock ∧
      ¬(Edit.remove "../A/b").Concerns "A/b" ∧ (s.apply (.remove "../A/b")).content? "A/b" = s.content? "A/b" ∧
      '/' ∉ "..".toList ∧ Path.components ".." = [".."] := by
  intro after edits s
  obtain ⟨hclock, _, _, _, _, hlast, hother, hread, _, _, _, hpiece⟩ := files_follow_edits edits
  have hwrite : LastWrite edits "A/b" [] "x".toByteArray after :=
    ⟨⟨"./A//b/", by decide +kernel, rfl⟩, by decide +kernel⟩
  have hfile := (hlast "A/b" "x".toByteArray 100).mpr ⟨[], after, hwrite, by decide +kernel⟩
  have hget : s.get? "A/b" = some ⟨"x".toByteArray, 100⟩ := get?_eq_some_iff.mpr hfile
  have hstored : s.Stored ⟨"x".toByteArray, 100⟩ := ⟨Path.normal "A/b", hget⟩
  have hdistinct : ¬(Edit.remove "../A/b").Concerns "A/b" := by decide +kernel
  have hslash : '/' ∉ "..".toList := by decide +kernel
  exact ⟨hwrite, hfile.1, hfile.2, (hread "A/b" "x").mpr hfile.1, hstored, hclock _ hstored, hdistinct,
    (hother _ "A/b" hdistinct).1, hslash, (hpiece ".." hslash).trans (by decide +kernel)⟩

end Rebuild.Store
