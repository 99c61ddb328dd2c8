import Rebuild.Proofs.Text.Words
import Rebuild.Rule.Block

/-!
# The blocks of a text

- A `MaximalRun` is a stretch of elements with a property that goes no further on either side; what the runs of a list
  are is known from its first element without the property (`cons_iff`) or from its first run (`append_iff`);
- `ofLines` finds every maximal run of lines that have words, and nothing else (`mem_ofLines_iff`), in order
  (`pairwise_line_ofLines`), and the blocks hold all the words (`flatMap_words_ofLines`);
- so `ofText` finds the maximal runs of lines that are not blank (`areOf_iff`): it looks at the pieces between line
  feeds, but these have the words of the lines (`ofText_eq_ofLines`);
- a line without words ends every block before it (`ofLines_append`), so two texts with an empty line between them have
  the blocks of both (`ofText_append`).
-/

namespace Rebuild

variable {α β : Type}

/-! ## Maximal runs -/

/-- `run` is a maximal run of elements with `p`, which stands in `xs` between `before` and `after`. -/
structure MaximalRun (p : α → Bool) (xs before run after : List α) : Prop where
  split : xs = before ++ (run ++ after)
  ne_nil : run ≠ []
  inside : ∀ x ∈ run, p x = true
  before_ends : ∀ x, before.getLast? = some x → p x = false
  after_starts : ∀ x, after.head? = some x → p x = false

namespace MaximalRun

variable {p : α → Bool} {x : α} {xs before run after first rest : List α}

theorem not_nil : ¬ MaximalRun p [] before run after := fun h => by
  have := h.split
  simp [h.ne_nil] at this

/-- An element without the property comes before every run. -/
theorem cons_iff (hx : p x = false) : MaximalRun p (x :: xs) before run after ↔
    ∃ tail, before = x :: tail ∧ MaximalRun p xs tail run after := by
  constructor
  · intro h
    cases before with
    | nil =>
      obtain ⟨y, run', rfl⟩ := List.exists_cons_of_ne_nil h.ne_nil
      obtain ⟨rfl, -⟩ := List.cons.inj h.split
      exact absurd (h.inside x List.mem_cons_self) (by simp [hx])
    | cons y tail =>
      obtain ⟨rfl, hsplit⟩ := List.cons.inj h.split
      refine ⟨tail, rfl, hsplit, h.ne_nil, h.inside, fun z hz => h.before_ends z ?_, h.after_starts⟩
      rw [List.getLast?_cons, hz]
      rfl
  · rintro ⟨tail, rfl, h⟩
    refine ⟨congrArg (x :: ·) h.split, h.ne_nil, h.inside, fun z hz => ?_, h.after_starts⟩
    rw [List.getLast?_cons] at hz
    cases htail : tail.getLast? with
    | none => rw [htail] at hz; cases hz; exact hx
    | some y => rw [htail] at hz; cases hz; exact h.before_ends y htail

/-- A run at the start ends where the property ends. -/
theorem eq_of_append_eq {run' after' : List α} (heq : run ++ after = run' ++ after') (hin : ∀ x ∈ run, p x = true)
    (hafter : ∀ x, after.head? = some x → p x = false) (hin' : ∀ x ∈ run', p x = true)
    (hafter' : ∀ x, after'.head? = some x → p x = false) : run = run' ∧ after = after' := by
  rcases List.append_eq_append_iff.mp heq with ⟨more, rfl, rfl⟩ | ⟨more, rfl, rfl⟩
  · cases more with
    | nil => simp
    | cons y more => simp [hin' y (by simp)] at hafter
  · cases more with
    | nil => simp
    | cons y more => simp [hin y (by simp)] at hafter'

/-- The runs of a list that starts with a run are this one and the runs of the rest. -/
theorem append_iff (hne : first ≠ []) (hfirst : ∀ x ∈ first, p x = true)
    (hrest : ∀ x, rest.head? = some x → p x = false) : MaximalRun p (first ++ rest) before run after ↔
      (before = [] ∧ run = first ∧ after = rest) ∨
        ∃ tail, before = first ++ tail ∧ MaximalRun p rest tail run after := by
  constructor
  · intro h
    rcases List.append_eq_append_iff.mp h.split with ⟨tail, rfl, hsplit⟩ | ⟨part, rfl, hsplit⟩
    · refine Or.inr ⟨tail, rfl, hsplit, h.ne_nil, h.inside, fun z hz => h.before_ends z ?_, h.after_starts⟩
      rw [List.getLast?_append, hz]
      rfl
    · -- `before` is a part of the first run, so its last element would have the property
      cases hlast : before.getLast? with
      | none =>
        obtain rfl := List.getLast?_eq_none_iff.mp hlast
        obtain ⟨rfl, rfl⟩ := eq_of_append_eq hsplit h.inside h.after_starts hfirst hrest
        exact Or.inl ⟨rfl, rfl, rfl⟩
      | some y =>
        have hy := hfirst y (List.mem_append_left _ (List.mem_of_getLast? hlast))
        exact absurd hy (by simp [h.before_ends y hlast])
  · rintro (⟨rfl, rfl, rfl⟩ | ⟨tail, rfl, h⟩)
    · exact ⟨rfl, hne, hfirst, by simp, hrest⟩
    · refine ⟨by rw [h.split, List.append_assoc], h.ne_nil, h.inside, fun z hz => ?_, h.after_starts⟩
      -- the rest starts without the property, so something stands between the two runs
      cases tail with
      | nil =>
        obtain ⟨y, run', rfl⟩ := List.exists_cons_of_ne_nil h.ne_nil
        have hy := hrest y (by rw [h.split]; rfl)
        exact absurd (h.inside y List.mem_cons_self) (by simp [hy])
      | cons y tail =>
        rw [List.getLast?_append, List.getLast?_cons] at hz
        exact h.before_ends z (by rw [List.getLast?_cons, ← hz]; rfl)

/-- The runs among images are the images of runs. -/
theorem map_iff {f : β → α} {ys : List β} : MaximalRun p (ys.map f) before run after ↔
    ∃ before' run' after', MaximalRun (p ∘ f) ys before' run' after' ∧ before'.map f = before ∧ run'.map f = run ∧
      after'.map f = after := by
  constructor
  · intro h
    obtain ⟨before', tail, rfl, rfl, htail⟩ := List.map_eq_append_iff.mp h.split
    obtain ⟨run', after', rfl, rfl, rfl⟩ := List.map_eq_append_iff.mp htail
    refine ⟨before', run', after', ⟨rfl, fun he => h.ne_nil (by rw [he]; rfl), fun y hy => ?_, fun y hy => ?_,
      fun y hy => ?_⟩, rfl, rfl, rfl⟩
    · exact h.inside (f y) (List.mem_map_of_mem hy)
    · exact h.before_ends (f y) (by rw [List.getLast?_map, hy]; rfl)
    · exact h.after_starts (f y) (by rw [List.head?_map, hy]; rfl)
  · rintro ⟨before', run', after', h, rfl, rfl, rfl⟩
    refine ⟨by rw [h.split, List.map_append, List.map_append], by simpa using h.ne_nil, ?_, ?_, ?_⟩
    · simpa using h.inside
    · simpa [List.getLast?_map] using h.before_ends
    · simpa [List.head?_map] using h.after_starts

end MaximalRun

namespace Block

/-! ## Blocks of lines -/

/-- A line that has words. -/
abbrev hasWords (line : List String) : Bool :=
  !line.isEmpty

/-- What stops a run has no words. -/
theorem head?_dropWhile_hasWords (lines : List (List String)) :
    ∀ line, (lines.dropWhile hasWords).head? = some line → hasWords line = false := by
  intro line h
  have hnot := List.head?_dropWhile_not hasWords lines
  rwa [h] at hnot

/-- The blocks are the maximal runs of lines that have words. -/
theorem mem_ofLines_iff {n : Nat} {lines : List (List String)} {block : Block} : block ∈ ofLines n lines ↔
    ∃ before run after, MaximalRun hasWords lines before run after ∧ block = ⟨n + before.length, run.flatten⟩ := by
  fun_induction ofLines n lines with
  | case1 n => simp [MaximalRun.not_nil]
  | case2 n rest ih =>
    rw [ih]
    constructor
    · rintro ⟨before, run, after, h, rfl⟩
      refine ⟨[] :: before, run, after, (MaximalRun.cons_iff rfl).mpr ⟨before, rfl, h⟩, ?_⟩
      rw [List.length_cons, Nat.add_right_comm, Nat.add_assoc]
    · rintro ⟨before, run, after, h, rfl⟩
      obtain ⟨tail, rfl, htail⟩ := (MaximalRun.cons_iff rfl).mp h
      refine ⟨tail, run, after, htail, ?_⟩
      rw [List.length_cons, Nat.add_right_comm, Nat.add_assoc]
  | case3 n w ws rest more ih =>
    have hsplit : (w :: ws) :: rest = ((w :: ws) :: more) ++ rest.dropWhile hasWords :=
      congrArg ((w :: ws) :: ·) List.takeWhile_append_dropWhile.symm
    have hfirst : ∀ line ∈ (w :: ws) :: more, hasWords line = true :=
      List.forall_mem_cons.mpr ⟨rfl, List.all_eq_true.mp List.all_takeWhile⟩
    rw [hsplit, List.mem_cons, ih]
    simp only [MaximalRun.append_iff (List.cons_ne_nil _ _) hfirst (head?_dropWhile_hasWords rest)]
    constructor
    · rintro (rfl | ⟨before, run, after, h, rfl⟩)
      · exact ⟨[], _, _, Or.inl ⟨rfl, rfl, rfl⟩, rfl⟩
      · refine ⟨_, run, after, Or.inr ⟨before, rfl, h⟩, ?_⟩
        simp only [List.length_append, List.length_cons]
        congr 1
        omega
    · rintro ⟨before, run, after, ⟨rfl, rfl, rfl⟩ | ⟨tail, rfl, h⟩, rfl⟩
      · exact Or.inl rfl
      · refine Or.inr ⟨tail, run, after, h, ?_⟩
        simp only [List.length_append, List.length_cons]
        congr 1
        omega

/-- No block starts before the first line. -/
theorem le_line_of_mem_ofLines {n : Nat} {lines : List (List String)} {block : Block} (h : block ∈ ofLines n lines) :
    n ≤ block.line := by
  obtain ⟨before, run, after, -, rfl⟩ := mem_ofLines_iff.mp h
  exact Nat.le_add_right ..

/-- The blocks are in the order of their lines. -/
theorem pairwise_line_ofLines (n : Nat) (lines : List (List String)) :
    (ofLines n lines).Pairwise (·.line < ·.line) := by
  fun_induction ofLines n lines with
  | case1 n => exact .nil
  | case2 n rest ih => exact ih
  | case3 n w ws rest more ih =>
    refine .cons (fun block hblock => ?_) ih
    have := le_line_of_mem_ofLines hblock
    simp only
    omega

/-- The blocks hold the words of all lines, in order. -/
theorem flatMap_words_ofLines (n : Nat) (lines : List (List String)) :
    (ofLines n lines).flatMap words = lines.flatten := by
  fun_induction ofLines n lines with
  | case1 n => rfl
  | case2 n rest ih => exact ih
  | case3 n w ws rest more ih =>
    rw [List.flatMap_cons, ih, ← List.flatten_append, List.cons_append, List.takeWhile_append_dropWhile]

/-- A line without words ends every block before it. -/
theorem ofLines_append (n : Nat) (lines rest : List (List String)) :
    ofLines n (lines ++ [] :: rest) = ofLines n lines ++ ofLines (n + lines.length + 1) rest := by
  fun_induction ofLines n lines with
  | case1 n => simp [ofLines]
  | case2 n lines ih => rw [List.cons_append, ofLines, ih, List.length_cons, Nat.add_right_comm n 1, Nat.add_assoc n]
  | case3 n w ws lines more ih =>
    have htake : (lines ++ [] :: rest).takeWhile (!·.isEmpty) = more := by
      rw [List.takeWhile_append]
      split
      · next hall => simpa using (List.takeWhile_sublist _).eq_of_length hall |>.symm
      · rfl
    have hdrop : (lines ++ [] :: rest).dropWhile (!·.isEmpty) = lines.dropWhile (!·.isEmpty) ++ [] :: rest := by
      rw [List.dropWhile_append]
      split
      · next hnil => simp [List.isEmpty_iff.mp hnil]
      · rfl
    have hlength : more.length + (lines.dropWhile (!·.isEmpty)).length = lines.length := by
      rw [← List.length_append, List.takeWhile_append_dropWhile]
    rw [List.cons_append, ofLines]
    simp only [htake, hdrop, ih, List.cons_append, List.length_cons]
    congr 3
    omega

/-- Lines that have words are one block. -/
theorem ofLines_of_hasWords {n : Nat} {run : List (List String)} (hne : run ≠ [])
    (hrun : ∀ line ∈ run, hasWords line = true) : ofLines n run = [⟨n, run.flatten⟩] := by
  obtain ⟨first, more, rfl⟩ := List.exists_cons_of_ne_nil hne
  obtain ⟨hfirst, hmore⟩ := List.forall_mem_cons.mp hrun
  cases first with
  | nil => cases hfirst
  | cons w ws =>
    have htake : (more ++ []).takeWhile hasWords = more ++ [] := List.takeWhile_append_of_pos hmore
    have hdrop : (more ++ []).dropWhile hasWords = [] := List.dropWhile_append_of_pos hmore
    rw [List.append_nil] at htake hdrop
    rw [ofLines]
    simp only [htake, hdrop, ofLines]

/-- A run at the start that a line without words follows is the first block. -/
theorem ofLines_append_cons {n : Nat} {run : List (List String)} (hne : run ≠ [])
    (hrun : ∀ line ∈ run, hasWords line = true) (rest : List (List String)) :
    ofLines n (run ++ [] :: rest) = ⟨n, run.flatten⟩ :: ofLines (n + run.length + 1) rest := by
  rw [ofLines_append, ofLines_of_hasWords hne hrun, List.singleton_append]

/-- A last line without words makes no difference. -/
theorem ofLines_append_nil (n : Nat) (lines : List (List String)) : ofLines n (lines ++ [[]]) = ofLines n lines := by
  rw [ofLines_append, ofLines, List.append_nil]

/-- The block some lines further down. -/
def down (k : Nat) (block : Block) : Block :=
  { block with line := block.line + k }

/-- Where the first line has a greater number, so have all blocks. -/
theorem ofLines_add (n k : Nat) (lines : List (List String)) :
    ofLines (n + k) lines = (ofLines n lines).map (down k) := by
  fun_induction ofLines n lines with
  | case1 n => simp [ofLines]
  | case2 n rest ih => rw [ofLines, Nat.add_right_comm, ih]
  | case3 n w ws rest more ih =>
    rw [ofLines, List.map_cons, ← ih]
    dsimp only [down]
    congr 2
    show n + k + 1 + more.length = n + 1 + more.length + k
    omega

/-! ## Blocks of a text -/

/-- The blocks of a text are those of its lines. -/
theorem ofText_eq_ofLines (text : String) : ofText text = ofLines 1 ((Text.lines text).map Text.words) := by
  have hwords : (Text.lines text).map Text.words =
      ((Text.linesOfPieces (Text.pieces text)).map Text.wordsOfChars).map (·.map String.ofList) := by
    simp [Text.lines, Text.words, Function.comp_def]
  have hpieces : (Text.pieces text).map (fun piece => (Text.wordsOfChars piece).map String.ofList) =
      ((Text.pieces text).map Text.wordsOfChars).map (·.map String.ofList) := by
    simp [Function.comp_def]
  rw [ofText, hwords, hpieces]
  rcases Text.wordsOfChars_linesOfPieces (Text.pieces text) with h | h
  · rw [h]
  · rw [h, List.map_append]
    exact ofLines_append_nil _ _

/-- Below another text and an empty line, a text has the blocks that it has alone, further down. -/
theorem ofText_append (text rest : String) : ofText (text ++ "\n\n" ++ rest) =
    ofText text ++ (ofText rest).map (down (text.toList.count '\n' + 2)) := by
  have hline : 1 + (text.toList.count '\n' + 1) + 1 = 1 + (text.toList.count '\n' + 2) := by omega
  unfold ofText
  rw [Text.pieces_append, List.map_append, List.map_cons, ← ofLines_add]
  show ofLines 1 (_ ++ [] :: _) = _
  rw [ofLines_append, List.length_map, Text.length_pieces, hline]

/-- `blocks` are the maximal runs of lines of a text that are not blank, in order. -/
structure AreOf (text : String) (blocks : List Block) : Prop where
  mem_iff : ∀ block, block ∈ blocks ↔
    ∃ before run after, MaximalRun (!Text.isBlankText ·) (Text.lines text) before run after ∧
      block = ⟨before.length + 1, run.flatMap Text.words⟩
  ordered : blocks.Pairwise (·.line < ·.line)

theorem areOf_ofText (text : String) : AreOf text (ofText text) := by
  have hcomp : hasWords ∘ Text.words = (!Text.isBlankText ·) := by
    funext line
    rw [Bool.eq_iff_iff]
    simp [Text.words_eq_nil_iff]
  rw [ofText_eq_ofLines]
  refine ⟨fun block => ?_, pairwise_line_ofLines ..⟩
  rw [mem_ofLines_iff]
  simp only [MaximalRun.map_iff, hcomp]
  constructor
  · rintro ⟨_, _, _, ⟨before, run, after, h, rfl, rfl, rfl⟩, rfl⟩
    exact ⟨before, run, after, h, by rw [List.length_map, Nat.add_comm, List.flatMap_def]⟩
  · rintro ⟨before, run, after, h, rfl⟩
    exact ⟨_, _, _, ⟨before, run, after, h, rfl, rfl, rfl⟩, by rw [List.length_map, Nat.add_comm, List.flatMap_def]⟩

/-- A text has one list of blocks. -/
theorem areOf_iff {text : String} {blocks : List Block} : AreOf text blocks ↔ blocks = ofText text := by
  refine ⟨fun h => ?_, fun h => h ▸ areOf_ofText text⟩
  have hof := areOf_ofText text
  have hnodup : ∀ {l : List Block}, l.Pairwise (·.line < ·.line) → l.Nodup := fun hl =>
    List.Pairwise.imp (fun hlt heq => Nat.ne_of_lt hlt (congrArg line heq)) hl
  have hperm := (List.perm_ext_iff_of_nodup (hnodup h.ordered) (hnodup hof.ordered)).mpr fun block =>
    (h.mem_iff block).trans (hof.mem_iff block).symm
  exact hperm.eq_of_pairwise (fun _ _ _ _ hlt hgt => absurd hgt (Nat.lt_asymm hlt)) h.ordered hof.ordered

/-- The blocks of a text hold its words. -/
theorem flatMap_words_ofText (text : String) : (ofText text).flatMap words = Text.words text := by
  rw [ofText_eq_ofLines, flatMap_words_ofLines, ← List.flatMap_def, Text.flatMap_words_lines]

end Block

end Rebuild
