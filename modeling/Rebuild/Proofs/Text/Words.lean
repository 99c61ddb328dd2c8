import Rebuild.Text.Blank
import Rebuild.Text.Line

/-!
# Words and lines

A blank divides the words before it from those after it (`wordsOfChars_append_cons`). So a text without words is blank
(`words_eq_nil_iff`), and cutting a text at blanks loses no word (`flatMap_wordsOfChars_splitOnP`). The words of a text
are words on their own (`isWord_of_mem_words`). What ends a line is blank, so the words of a text are those of its lines
(`flatMap_words_lines`); and an empty line between two texts keeps their pieces apart (`pieces_append`).
-/

namespace Rebuild.Text

/-! ## Words on both sides of a blank -/

@[simp] theorem wordsOfChars_nil : wordsOfChars [] = [] := rfl

theorem wordsOfChars_append_cons {c : Char} (hc : isBlank c = true) (before after : List Char) :
    wordsOfChars (before ++ c :: after) = wordsOfChars before ++ wordsOfChars after := by
  unfold wordsOfChars
  rw [List.splitOnP_append_cons before after hc, List.filter_append]

theorem wordsOfChars_cons {c : Char} (hc : isBlank c = true) (cs : List Char) :
    wordsOfChars (c :: cs) = wordsOfChars cs :=
  wordsOfChars_append_cons hc [] cs

theorem wordsOfChars_concat {c : Char} (hc : isBlank c = true) (cs : List Char) :
    wordsOfChars (cs ++ [c]) = wordsOfChars cs := by
  rw [wordsOfChars_append_cons hc, wordsOfChars_nil, List.append_nil]

/-- A character that is not blank belongs to a word. -/
theorem wordsOfChars_ne_nil {c : Char} (hc : isBlank c = false) (cs : List Char) : wordsOfChars (c :: cs) ≠ [] := by
  unfold wordsOfChars
  rw [List.splitOnP_cons_eq_if_modifyHead, if_neg (by simp [hc])]
  cases h : cs.splitOnP isBlank with
  | nil => exact absurd h (List.splitOnP_ne_nil _ _)
  | cons w ws => simp

theorem wordsOfChars_eq_nil_iff {cs : List Char} : wordsOfChars cs = [] ↔ cs.all isBlank = true := by
  induction cs with
  | nil => simp
  | cons c cs ih =>
    cases hc : isBlank c with
    | true => simp [wordsOfChars_cons hc, ih, hc]
    | false => simp [wordsOfChars_ne_nil hc, hc]

/-- A text has no words exactly if it is blank. -/
theorem words_eq_nil_iff {s : String} : words s = [] ↔ isBlankText s = true := by
  unfold words isBlankText
  rw [List.map_eq_nil_iff, wordsOfChars_eq_nil_iff]

/-! ## Cutting at blanks -/

/-- Where characters are cut at blanks, the words of the pieces are those of the whole. -/
theorem flatMap_wordsOfChars_splitOnP {p : Char → Bool} (hp : ∀ c, p c = true → isBlank c = true) (cs : List Char) :
    (cs.splitOnP p).flatMap wordsOfChars = wordsOfChars cs := by
  by_cases h : ∃ c ∈ cs, p c = true
  · obtain ⟨c, hmem, hc⟩ := h
    obtain ⟨before, after, rfl⟩ := List.append_of_mem hmem
    rw [List.splitOnP_append_cons before after hc, List.flatMap_append,
      flatMap_wordsOfChars_splitOnP hp before, flatMap_wordsOfChars_splitOnP hp after,
      wordsOfChars_append_cons (hp c hc)]
  · have hnone : ∀ c ∈ cs, p c = false := fun c hc => Bool.eq_false_iff.mpr fun he => h ⟨c, hc, he⟩
    rw [List.splitOnP_eq_singleton hnone, List.flatMap_singleton]
termination_by cs.length

/-! ## Words on their own -/

/-- A text that is one word. -/
structure IsWord (w : String) : Prop where
  ne_empty : w ≠ ""
  not_blank : ∀ c ∈ w.toList, isBlank c = false

instance (w : String) : Decidable (IsWord w) :=
  decidable_of_iff (w ≠ "" ∧ w.toList.all (!isBlank ·) = true)
    ⟨fun h => ⟨h.1, by simpa using h.2⟩, fun h => ⟨h.1, by simpa using h.not_blank⟩⟩

theorem IsWord.wordsOfChars_eq {w : String} (h : IsWord w) : wordsOfChars w.toList = [w.toList] := by
  have hne : w.toList ≠ [] := fun he => h.ne_empty (String.toList_eq_nil_iff.mp he)
  unfold wordsOfChars
  rw [List.splitOnP_eq_singleton h.not_blank]
  exact List.filter_cons_of_pos (by simpa using hne)

/-- Where characters are cut at some of them, no piece holds one of these. -/
theorem eq_false_of_mem_splitOnP {p : Char → Bool} {cs piece : List Char} (h : piece ∈ cs.splitOnP p) :
    ∀ c ∈ piece, p c = false := by
  induction cs generalizing piece with
  | nil => simp_all
  | cons c cs ih =>
    rw [List.splitOnP_cons_eq_if_modifyHead] at h
    split at h
    · rcases List.mem_cons.mp h with rfl | h
      · simp
      · exact ih h
    · next hc =>
      obtain ⟨first, rest, hpieces⟩ := List.exists_cons_of_ne_nil (List.splitOnP_ne_nil p cs)
      rw [hpieces, List.modifyHead_cons] at h
      rw [hpieces] at ih
      rcases List.mem_cons.mp h with rfl | h
      · exact List.forall_mem_cons.mpr ⟨Bool.eq_false_iff.mpr hc, ih List.mem_cons_self⟩
      · exact ih (List.mem_cons_of_mem _ h)

/-- The words of a text are words. -/
theorem isWord_of_mem_words {s w : String} (h : w ∈ words s) : IsWord w := by
  obtain ⟨cs, hcs, rfl⟩ := List.mem_map.mp h
  refine ⟨fun he => ne_nil_of_mem_words hcs ?_, ?_⟩
  · rw [← String.toList_ofList (l := cs), he]
    rfl
  · rw [String.toList_ofList]
    exact eq_false_of_mem_splitOnP (List.mem_filter.mp hcs).1

/-! ## Lines -/

/-- A text has one piece more than line feeds. -/
theorem length_pieces (s : String) : (pieces s).length = s.toList.count '\n' + 1 := by
  suffices h : ∀ cs : List Char, (cs.splitOnP (· == '\n')).length = cs.count '\n' + 1 from h s.toList
  intro cs
  induction cs with
  | nil => rfl
  | cons c cs ih =>
    rw [List.splitOnP_cons_eq_if_modifyHead, List.count_cons]
    split <;> simp [ih]

/-- An empty line between two texts is a piece of its own. -/
theorem pieces_append (s t : String) : pieces (s ++ "\n\n" ++ t) = pieces s ++ [] :: pieces t := by
  have hchars : (s ++ "\n\n" ++ t).toList = s.toList ++ '\n' :: ([] ++ '\n' :: t.toList) := by simp
  unfold pieces
  rw [hchars, List.splitOnP_append_cons _ _ rfl, List.splitOnP_append_cons _ _ rfl]
  rfl

/-- What ends a line is blank. -/
theorem wordsOfChars_dropReturn (cs : List Char) : wordsOfChars (dropReturn cs) = wordsOfChars cs := by
  unfold dropReturn
  split
  · next h =>
    obtain ⟨init, rfl⟩ := List.getLast?_eq_some_iff.mp h
    rw [List.dropLast_concat, wordsOfChars_concat (by decide)]
  · rfl

/-- The words of the pieces between line feeds are those of the lines; a last piece that is empty is no line. -/
theorem wordsOfChars_linesOfPieces : ∀ pieces : List (List Char),
    pieces.map wordsOfChars = (linesOfPieces pieces).map wordsOfChars ∨
      pieces.map wordsOfChars = (linesOfPieces pieces).map wordsOfChars ++ [[]]
  | [] => Or.inl rfl
  | [[]] => Or.inr rfl
  | [_ :: _] => Or.inl rfl
  | piece :: next :: rest => by
    have hfirst : (linesOfPieces (piece :: next :: rest)).map wordsOfChars =
        wordsOfChars piece :: (linesOfPieces (next :: rest)).map wordsOfChars :=
      congrArg (· :: _) (wordsOfChars_dropReturn piece)
    rw [hfirst]
    exact (wordsOfChars_linesOfPieces (next :: rest)).imp (congrArg _) (congrArg _)

/-- The words of a text are those of its lines, one after the other. -/
theorem flatMap_words_lines (s : String) : (lines s).flatMap words = words s := by
  have hpieces : (pieces s).flatMap wordsOfChars = wordsOfChars s.toList :=
    flatMap_wordsOfChars_splitOnP (fun c hc => by rw [beq_iff_eq.mp hc]; rfl) s.toList
  have hlines : (linesOfPieces (pieces s)).flatMap wordsOfChars = wordsOfChars s.toList := by
    rw [← hpieces, List.flatMap_def, List.flatMap_def]
    rcases wordsOfChars_linesOfPieces (pieces s) with h | h <;> simp [h]
  unfold lines words
  rw [← hlines]
  simp [List.flatMap_map, List.map_flatMap]

end Rebuild.Text
