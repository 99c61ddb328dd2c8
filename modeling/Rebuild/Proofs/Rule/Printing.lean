import Rebuild.Proofs.Rule.Grammar
import Rebuild.Proofs.Rule.Validation
import Rebuild.Rule.Printer

/-!
# Printing rules and reading them

- A draft is sound if it has a dependency and a command, and all that it names are words other than the delimiter
  (`Draft.Sound`); each of these words is then one line of the printed text (`pieces_render`), so the blocks of the text
  have the words of the drafts (`words_ofText_render`);
- the words of a rule without delimiters in its sections tell the sections apart (`RawRule.eq_of_words_eq`), so reading
  gives back what was printed (`ofText_render`);
- the words of a text are words, so rules that were read are sound (`sound_of_ofText`).

Together: printing and reading undo each other (`render_ofText_inverse`).
-/

namespace Rebuild

namespace Draft

/-- A word that a section can hold. -/
def IsItem (w : String) : Prop :=
  Text.IsWord w ∧ w ≠ delimiter

instance (w : String) : Decidable (IsItem w) :=
  inferInstanceAs (Decidable (_ ∧ _))

/-- What the sections of a draft hold. -/
def items (d : Draft) : List String :=
  d.target :: d.deps ++ d.command

/-- A draft of a rule that can be read back. -/
structure Sound (d : Draft) : Prop where
  isItem : ∀ w ∈ d.items, IsItem w
  deps_ne_nil : d.deps ≠ []
  command_ne_nil : d.command ≠ []

/-! ## The blocks of a printed text -/

variable {d : Draft} {drafts : List Draft}

/-- All that is printed of a sound draft are words. -/
theorem Sound.isWord (h : d.Sound) : ∀ w ∈ d.words, Text.IsWord w := by
  intro w hw
  have hmem : w ∈ d.items ∨ w = delimiter := by
    simp only [words, items, List.mem_append, List.mem_cons, List.not_mem_nil, or_false] at hw ⊢
    tauto
  rcases hmem with hitem | rfl
  · exact (h.isItem w hitem).1
  · decide

/-- The lines of words that a line feed follows are these words, one to a line. -/
theorem splitOnP_intercalate {ws : List String} (hws : ∀ w ∈ ws, Text.IsWord w) (hne : ws ≠ []) (rest : List Char) :
    (("\n".intercalate ws).toList ++ '\n' :: rest).splitOnP (· == '\n') =
      ws.map String.toList ++ rest.splitOnP (· == '\n') := by
  have hline : ∀ w : String, Text.IsWord w → w.toList.splitOnP (· == '\n') = [w.toList] := fun w hw =>
    List.splitOnP_eq_singleton fun c hc => beq_eq_false_iff_ne.mpr fun he => by
      have := hw.not_blank c hc
      rw [he] at this
      cases this
  induction ws with
  | nil => exact absurd rfl hne
  | cons w ws ih =>
    obtain ⟨hw, hws⟩ := List.forall_mem_cons.mp hws
    cases ws with
    | nil =>
      rw [String.intercalate_singleton, List.splitOnP_append_cons _ _ rfl, hline w hw]
      rfl
    | cons v vs =>
      rw [String.intercalate_cons_cons, String.toList_append, String.toList_append, List.append_assoc,
        List.append_assoc]
      show (w.toList ++ '\n' :: (("\n".intercalate (v :: vs)).toList ++ '\n' :: rest)).splitOnP _ = _
      rw [List.splitOnP_append_cons _ _ rfl, hline w hw, ih hws (List.cons_ne_nil v vs)]
      rfl

/-- The lines of a printed text are the words of the drafts, with an empty line after each draft. -/
theorem pieces_render (hne : drafts ≠ []) (h : ∀ d ∈ drafts, d.Sound) :
    Text.pieces (render drafts) = drafts.flatMap fun d => d.words.map String.toList ++ [[]] := by
  induction drafts with
  | nil => exact absurd rfl hne
  | cons d drafts ih =>
    obtain ⟨hd, hdrafts⟩ := List.forall_mem_cons.mp h
    have hwords : d.words ≠ [] := List.cons_ne_nil _ _
    unfold Text.pieces
    cases drafts with
    | nil =>
      have hone : (render [d]).toList = d.block.toList ++ ['\n'] := by
        rw [← String.intercalate_singleton (s := "\n\n") (t := d.block)]
        exact String.toList_append
      rw [hone, List.flatMap_singleton]
      exact splitOnP_intercalate hd.isWord hwords []
    | cons d' drafts =>
      have hsplit :
          (render (d :: d' :: drafts)).toList =
            d.block.toList ++ '\n' :: '\n' :: (render (d' :: drafts)).toList := by
        simp only [render, List.map_cons, String.intercalate_cons_cons, String.toList_append, List.append_assoc]
        rfl
      have hempty :
          ('\n' :: (render (d' :: drafts)).toList).splitOnP (· == '\n') =
            [] :: Text.pieces (render (d' :: drafts)) :=
        List.splitOnP_append_cons [] _ rfl
      rw [hsplit, block, splitOnP_intercalate hd.isWord hwords, hempty, ih (List.cons_ne_nil _ _) hdrafts]
      exact (List.append_assoc _ [[]] _).symm

/-- A printed line is read as its word. -/
theorem wordsOfChars_lines (h : d.Sound) :
    ((d.words.map String.toList ++ [[]]).map fun piece => (Text.wordsOfChars piece).map String.ofList) =
      d.words.map (fun w => [w]) ++ [[]] := by
  rw [List.map_append, List.map_map]
  refine congrArg (· ++ [[]]) (List.map_congr_left fun w hw => ?_)
  rw [Function.comp_apply, (h.isWord w hw).wordsOfChars_eq, List.map_singleton, String.ofList_toList]

/-- The blocks of lines that have one word each, with an empty line after each draft, are the drafts. -/
theorem words_ofLines (n : Nat) (drafts : List Draft) :
    (Block.ofLines n (drafts.flatMap fun d => d.words.map (fun w => [w]) ++ [[]])).map Block.words =
      drafts.map words := by
  induction drafts generalizing n with
  | nil => simp [Block.ofLines]
  | cons d drafts ih =>
    have hrun : ∀ line ∈ d.words.map (fun w => [w]), Block.hasWords line = true := by simp
    rw [List.flatMap_cons, List.append_assoc, List.singleton_append,
      Block.ofLines_append_cons (by simp [words]) hrun, List.map_cons, ih, List.map_cons, ← List.flatMap_def]
    simp

/-- The blocks of a printed text have the words of the drafts. -/
theorem words_ofText_render (h : ∀ d ∈ drafts, d.Sound) :
    (Block.ofText (render drafts)).map Block.words = drafts.map words := by
  by_cases hne : drafts = []
  · subst hne
    have hlines : (Text.pieces (render [])).map (fun piece => (Text.wordsOfChars piece).map String.ofList) = [[]] := rfl
    rw [Block.ofText, hlines]
    simp [Block.ofLines]
  · rw [Block.ofText, pieces_render hne h, List.map_flatMap, ← words_ofLines 1 drafts]
    exact congrArg (fun lines => (Block.ofLines 1 lines).map Block.words)
      (List.flatMap_congr fun d hd => wordsOfChars_lines (h d hd))

/-! ## Drafts and rules -/

/-- The rule that is read at a place where a draft was printed. -/
def raw (d : Draft) (location : Location) : RawRule :=
  ⟨location, [d.target], d.deps, d.command⟩

theorem Sound.delimited_raw (h : d.Sound) (location : Location) : (d.raw location).Delimited := by
  have hitem : delimiter ∉ d.items := fun hmem => (h.isItem delimiter hmem).2 rfl
  simp only [items, List.cons_append, List.mem_cons, List.mem_append, not_or] at hitem
  exact ⟨by simpa [raw] using hitem.1, hitem.2.1, hitem.2.2⟩

/-- A draft is sound if what is printed of it are words and no section holds a delimiter. -/
theorem sound_of_delimited_raw {location : Location} (h : (d.raw location).Delimited)
    (hwords : ∀ w ∈ d.words, Text.IsWord w) (hdeps : d.deps ≠ []) (hcommand : d.command ≠ []) : d.Sound := by
  refine ⟨fun w hw => ⟨hwords w ?_, ?_⟩, hdeps, hcommand⟩
  · simp only [words, items, List.mem_append, List.mem_cons] at hw ⊢
    tauto
  · rintro rfl
    simp only [items, List.cons_append, List.mem_cons, List.mem_append] at hw
    rcases hw with hw | hw | hw
    · exact h.targets (List.mem_singleton.mpr hw)
    · exact h.sources hw
    · exact h.command hw

/-- A draft with a command is that of a rule. -/
theorem Sound.exists_ofTarget (h : d.Sound) : ∃ t, ofTarget t = d := by
  obtain ⟨target, deps, command⟩ := d
  obtain ⟨program, args, rfl⟩ := List.exists_cons_of_ne_nil h.command_ne_nil
  exact ⟨⟨target, deps, program, args⟩, rfl⟩

theorem exists_map_ofTarget (h : ∀ d ∈ drafts, d.Sound) : ∃ ts : List Target, ts.map ofTarget = drafts := by
  induction drafts with
  | nil => exact ⟨[], rfl⟩
  | cons d drafts ih =>
    obtain ⟨hd, hdrafts⟩ := List.forall_mem_cons.mp h
    obtain ⟨t, rfl⟩ := hd.exists_ofTarget
    obtain ⟨ts, rfl⟩ := ih hdrafts
    exact ⟨t :: ts, rfl⟩

end Draft

open Draft

/-! ## Reading what was printed -/

/-- The words of a rule tell its sections apart. -/
theorem RawRule.eq_of_words_eq {rule rule' : RawRule} (h : rule.Delimited) (h' : rule'.Delimited)
    (hlocation : rule.location = rule'.location) (hwords : rule.words = rule'.words) : rule = rule' := by
  have hread := ofWords_words h
  rw [hlocation, hwords, ofWords_words h'] at hread
  exact (Except.ok.inj hread).symm

/-- A rule that holds on its own is what is read at a place where the draft of its target was printed. -/
theorem RawRule.eq_raw_of_target {rule : RawRule} {t : Target} (h : rule.target = .ok t) :
    rule = (ofTarget t).raw rule.location := by
  obtain ⟨hname, hdeps, hcommand, _⟩ := target_eq_ok_iff.mp h
  obtain ⟨location, targets, sources, command⟩ := rule
  cases hname; cases hdeps; cases hcommand
  rfl

/-- A rule that has the words of a sound draft is the draft's. -/
theorem RawRule.target_of_words_eq {rule : RawRule} {t : Target} (hrule : rule.Delimited) (ht : (ofTarget t).Sound)
    (hwords : rule.words = (ofTarget t).words) : rule.target = .ok t := by
  have hraw : rule = (ofTarget t).raw rule.location := eq_of_words_eq hrule (ht.delimited_raw _) rfl hwords
  rw [hraw]
  exact target_eq_ok_iff.mpr ⟨rfl, rfl, rfl, ht.deps_ne_nil⟩

theorem RawRule.map_target_of_words_eq {raws : List RawRule} {ts : List Target} (hraws : ∀ rule ∈ raws, rule.Delimited)
    (hts : ∀ t ∈ ts, (ofTarget t).Sound) (hwords : raws.map RawRule.words = ts.map fun t => (ofTarget t).words) :
    raws.map RawRule.target = ts.map .ok := by
  induction ts generalizing raws with
  | nil => rw [List.map_eq_nil_iff.mp hwords]; rfl
  | cons t ts ih =>
    obtain ⟨rule, rest, rfl, hfirst, hrest⟩ := List.map_eq_cons_iff.mp hwords
    obtain ⟨hrule, hothers⟩ := List.forall_mem_cons.mp hraws
    obtain ⟨ht, hts⟩ := List.forall_mem_cons.mp hts
    rw [List.map_cons, List.map_cons, target_of_words_eq hrule ht hfirst, ih hothers hts hrest]

namespace RuleSet

variable {text : String} {rules : RuleSet}

/-- A text spells a rule set if its blocks spell rules that hold together. -/
theorem ofText_eq_ok_iff : ofText text = .ok rules ↔
    ∃ raws, RawRule.SpelledBy inlineOrigin 1 (Block.ofText text) raws ∧
      raws.map RawRule.target = rules.targets.map .ok := by
  unfold ofText RawRule.ofText
  simp only [← RawRule.ofBlocks_eq_ok_iff, ← ofRawRules_eq_ok_iff]
  cases RawRule.ofBlocks inlineOrigin 1 (Block.ofText text) with
  | error malformed => exact ⟨fun h => (nomatch h), fun ⟨_, h, _⟩ => (nomatch h)⟩
  | ok raws => exact ⟨fun h => ⟨raws, rfl, h⟩, fun ⟨_, hraws, h⟩ => Except.ok.inj hraws ▸ h⟩

/-- Rules whose drafts are sound are read as they were printed. -/
theorem ofText_render (h : ∀ t ∈ rules.targets, (ofTarget t).Sound) :
    ofText (render (rules.targets.map ofTarget)) = .ok rules := by
  have hwords := words_ofText_render (List.forall_mem_map.mpr h)
  have hclosed : ∀ block ∈ Block.ofText (render (rules.targets.map ofTarget)), IsClosed block.words := by
    intro block hblock
    have hmem : block.words ∈ (rules.targets.map ofTarget).map Draft.words := hwords ▸ List.mem_map_of_mem hblock
    rw [List.map_map] at hmem
    obtain ⟨t, ht, heq⟩ := List.mem_map.mp hmem
    exact heq ▸ ((h t ht).delimited_raw ⟨"", 0, 0⟩).isClosed
  obtain ⟨raws, hraws⟩ := RawRule.exists_ofBlocks_eq_ok_iff.mpr hclosed
  have hspelled := RawRule.ofBlocks_eq_ok_iff.mp hraws
  refine ofText_eq_ok_iff.mpr ⟨raws, hspelled, RawRule.map_target_of_words_eq hspelled.delimited h ?_⟩
  rw [hspelled.words, hwords, List.map_map]
  rfl

/-- The drafts of rules that were read are sound. -/
theorem sound_of_ofText (h : ofText text = .ok rules) : ∀ t ∈ rules.targets, (ofTarget t).Sound := by
  intro t ht
  obtain ⟨raws, hspelled, htargets⟩ := ofText_eq_ok_iff.mp h
  have hmem : .ok t ∈ raws.map RawRule.target := htargets ▸ List.mem_map_of_mem ht
  obtain ⟨rule, hrule, heq⟩ := List.mem_map.mp hmem
  have hraw := RawRule.eq_raw_of_target heq
  have hdelimited := hspelled.delimited rule hrule
  rw [hraw] at hdelimited
  refine sound_of_delimited_raw hdelimited (fun w hw => ?_) (RawRule.deps_ne_nil_of_target heq) (List.cons_ne_nil _ _)
  refine Text.isWord_of_mem_words (s := text) ?_
  rw [← Block.flatMap_words_ofText, List.flatMap_def, ← hspelled.words, ← List.flatMap_def]
  exact List.mem_flatMap.mpr ⟨rule, hrule, by rw [hraw]; exact hw⟩

/-- Sound drafts with different targets are read as the rules of these drafts. -/
theorem exists_ofText_render {drafts : List Draft} (hnodup : (drafts.map Draft.target).Nodup)
    (hsound : ∀ d ∈ drafts, d.Sound) :
    ∃ rules, ofText (render drafts) = .ok rules ∧ rules.targets.map ofTarget = drafts := by
  obtain ⟨ts, rfl⟩ := exists_map_ofTarget hsound
  have hts : ∀ t ∈ ts, (ofTarget t).Sound := List.forall_mem_map.mp hsound
  rw [List.map_map] at hnodup
  obtain ⟨rules, rfl⟩ : ∃ rules : RuleSet, rules.targets = ts :=
    ⟨⟨ts, hnodup, fun t ht => (hts t ht).deps_ne_nil⟩, rfl⟩
  exact ⟨rules, ofText_render hts, rfl⟩

/-- Printing and reading undo each other:
- drafts with different targets that are sound are read as the rules of these drafts, in order;
- the rules of any text that is read have sound drafts, and are read again from what is printed of them. -/
theorem render_ofText_inverse :
    (∀ drafts : List Draft, (drafts.map Draft.target).Nodup → (∀ d ∈ drafts, d.Sound) →
        ∃ rules, ofText (render drafts) = .ok rules ∧ rules.targets.map ofTarget = drafts) ∧
      ∀ text rules, ofText text = .ok rules →
        (∀ t ∈ rules.targets, (ofTarget t).Sound) ∧ ofText (render (rules.targets.map ofTarget)) = .ok rules := by
  constructor
  · intro drafts hnodup hsound
    exact exists_ofText_render hnodup hsound
  · intro text rules h
    exact ⟨sound_of_ofText h, ofText_render (sound_of_ofText h)⟩

/-- A draft that names a dependency twice and has a delimiter within a word, and one of a rule for that dependency. -/
def sampleDrafts : List Draft :=
  [⟨"out", ["a", "a"], ["cp", "--x=a:b", "a", "out"]⟩, ⟨"a", ["src"], ["mk"]⟩]

/-- The text of the same rules, laid out otherwise. -/
def sampleLayout : String :=
  "\n\u2003\nout : a\r\n\ta : cp\u00A0--x=a:b\na out :\n \na : src : mk :"

/-- The sample is read from what is printed of it and from another layout, and is then printed again. -/
theorem render_ofText_inverse_sample :
    (sampleDrafts.map Draft.target).Nodup ∧ (∀ d ∈ sampleDrafts, d.Sound) ∧
      (∃ rules, ofText (render sampleDrafts) = .ok rules ∧ rules.targets.map ofTarget = sampleDrafts) ∧
      ∃ rules, ofText sampleLayout = .ok rules ∧ rules.targets.map ofTarget = sampleDrafts ∧
        (∀ t ∈ rules.targets, (ofTarget t).Sound) ∧ ofText (render (rules.targets.map ofTarget)) = .ok rules := by
  have hnodup : (sampleDrafts.map Draft.target).Nodup := by decide
  have hsound : ∀ d ∈ sampleDrafts, d.Sound := by
    have hparts : ∀ d ∈ sampleDrafts, (∀ w ∈ d.items, IsItem w) ∧ d.deps ≠ [] ∧ d.command ≠ [] := by
      decide +kernel
    exact fun d hd => ⟨(hparts d hd).1, (hparts d hd).2.1, (hparts d hd).2.2⟩
  have hread : (ofText sampleLayout).toOption.map (fun rules => rules.targets.map ofTarget) = some sampleDrafts := by
    decide +kernel
  refine ⟨hnodup, hsound, render_ofText_inverse.1 sampleDrafts hnodup hsound, ?_⟩
  cases h : ofText sampleLayout with
  | error malformed => rw [h] at hread; cases hread
  | ok rules =>
    rw [h] at hread
    exact ⟨rules, rfl, Option.some.inj hread, render_ofText_inverse.2 sampleLayout rules h⟩

end RuleSet

end Rebuild
