import Mathlib.Data.List.Basic
import Rebuild.Proofs.Rule.Blocks
import Rebuild.Rule.Parser

/-!
# The grammar of rules

- The words of a block spell a rule if the third delimiter among them is their last word (`IsClosed`); otherwise the
  delimiters tell what is wrong with them (`Defect.Spoils`), and only one thing (`unique`);
- `ofWords` agrees with both: it reads a rule that has exactly the words of the block and no delimiter in its sections,
  or it finds what the delimiters tell (`ofWords_cases`), and it reads every such rule (`ofWords_words`);
- `ofBlocks` goes from block to block, each with its number, and stops at the first that is not closed
  (`ofBlocks_eq_ok_iff`, `ofBlocks_eq_error_iff`);
- together: what rules a text has, or what is wrong with it, follows from its lines (`ofText_follows_grammar`).
-/

namespace Rebuild

/-! ## Sections -/

/-- A section ends at the first delimiter, if there is one. -/
theorem section?_cases (words : List String) : (section? words = none ∧ words.count delimiter = 0) ∨
    ∃ before after, section? words = some (before, after) ∧ words = before ++ delimiter :: after ∧
      before.count delimiter = 0 := by
  have hfree : (words.takeWhile (· != delimiter)).count delimiter = 0 := by
    refine List.count_eq_zero.mpr fun hmem => ?_
    have := List.all_eq_true.mp List.all_takeWhile delimiter hmem
    simp at this
  have hsplit := List.takeWhile_append_dropWhile (p := (· != delimiter)) (l := words)
  have hstop := List.head?_dropWhile_not (· != delimiter) words
  unfold section?
  cases hdrop : words.dropWhile (· != delimiter) with
  | nil =>
    rw [hdrop, List.append_nil] at hsplit
    exact Or.inl ⟨rfl, hsplit ▸ hfree⟩
  | cons word rest =>
    rw [hdrop] at hsplit hstop
    obtain rfl : word = delimiter := by simpa using hstop
    exact Or.inr ⟨_, rest, rfl, hsplit.symm, hfree⟩

theorem section?_eq_some {words before after : List String} (hwords : words = before ++ delimiter :: after)
    (hbefore : delimiter ∉ before) : section? words = some (before, after) := by
  have hall : ∀ word ∈ before, (word != delimiter) = true := fun word hword =>
    bne_iff_ne.mpr fun heq => hbefore (heq ▸ hword)
  simp [section?, hwords, List.takeWhile_append_of_pos hall, List.dropWhile_append_of_pos hall]

/-! ## Blocks that spell rules and blocks that do not -/

/-- The third delimiter is the last word. -/
def IsClosed (words : List String) : Prop :=
  ∃ before, words = before ++ [delimiter] ∧ before.count delimiter = 2

/-- What is wrong with words of which the third delimiter is not the last, as the delimiters tell it. -/
inductive Defect.Spoils (words : List String) : Defect → Prop where
  | none : words.count delimiter = 0 → Spoils words .noDelimiter
  | one : words.count delimiter = 1 → Spoils words .noCommandSection
  | nothingAfterTwo : words.count delimiter = 2 → words.getLast? = some delimiter → Spoils words .noCommandSection
  | wordsAfterTwo : words.count delimiter = 2 → words.getLast? ≠ some delimiter → Spoils words .unterminated
  | wordAfterThree {before word after} : words = before ++ delimiter :: word :: after → before.count delimiter = 2 →
      Spoils words (.trailing word)

/-- Of two places in a list, one is before the other if they are not the same. -/
theorem same_or_before {xs ys xs' ys' : List α} {x x' : α} (h : xs ++ x :: ys = xs' ++ x' :: ys') :
    (xs = xs' ∧ x = x' ∧ ys = ys') ∨ (∃ more, xs' = xs ++ x :: more) ∨ ∃ more, xs = xs' ++ x' :: more := by
  rcases List.append_eq_append_iff.mp h with ⟨more, rfl, hrest⟩ | ⟨more, rfl, hrest⟩
  · cases more with
    | nil => exact Or.inl (by simpa using hrest)
    | cons y more =>
      obtain ⟨rfl, -⟩ := List.cons.inj hrest
      exact Or.inr (Or.inl ⟨more, rfl⟩)
  · cases more with
    | nil => exact Or.inl (by simpa [eq_comm] using hrest)
    | cons y more =>
      obtain ⟨rfl, -⟩ := List.cons.inj hrest
      exact Or.inr (Or.inr ⟨more, rfl⟩)

/-- A delimiter is known by the number of those before it. -/
theorem eq_of_count_eq {before after before' after' : List String}
    (heq : before ++ delimiter :: after = before' ++ delimiter :: after')
    (hcount : before.count delimiter = before'.count delimiter) : after = after' := by
  rcases same_or_before heq with ⟨-, -, rfl⟩ | ⟨more, rfl⟩ | ⟨more, rfl⟩
  · rfl
  · simp at hcount
  · simp at hcount

/-- Words that spell a rule hold three delimiters. -/
theorem IsClosed.count {words : List String} (h : IsClosed words) : words.count delimiter = 3 := by
  obtain ⟨before, rfl, hcount⟩ := h
  simp [hcount]

namespace Defect.Spoils

variable {words : List String} {defect defect' : Defect}

/-- What follows the third delimiter makes no difference to the two before it. -/
theorem three_le_count {before after : List String} (hwords : words = before ++ delimiter :: after)
    (hcount : before.count delimiter = 2) : 3 ≤ words.count delimiter := by
  rw [hwords, List.count_append, List.count_cons_self, hcount]
  omega

/-- Nothing is wrong with words that spell a rule. -/
theorem not_isClosed (h : defect.Spoils words) : ¬ IsClosed words := by
  intro hclosed
  have hthree := hclosed.count
  cases h with
  | none hcount => omega
  | one hcount => omega
  | nothingAfterTwo hcount _ => omega
  | wordsAfterTwo hcount _ => omega
  | wordAfterThree hwords hcount =>
    obtain ⟨before, heq, hbefore⟩ := hclosed
    cases eq_of_count_eq (hwords.symm.trans heq) (hcount.trans hbefore.symm)

/-- The delimiters tell one thing. -/
theorem unique (h : defect.Spoils words) (h' : defect'.Spoils words) : defect = defect' := by
  cases h with
  | none hcount => cases h' with
    | none => rfl
    | wordAfterThree hwords hthree => have := three_le_count hwords hthree; omega
    | _ => omega
  | one hcount => cases h' with
    | one | nothingAfterTwo => rfl
    | wordAfterThree hwords hthree => have := three_le_count hwords hthree; omega
    | _ => omega
  | nothingAfterTwo hcount hlast => cases h' with
    | one | nothingAfterTwo => rfl
    | wordsAfterTwo _ hlast' => exact absurd hlast hlast'
    | wordAfterThree hwords hthree => have := three_le_count hwords hthree; omega
    | _ => omega
  | wordsAfterTwo hcount hlast => cases h' with
    | wordsAfterTwo => rfl
    | nothingAfterTwo _ hlast' => exact absurd hlast' hlast
    | wordAfterThree hwords hthree => have := three_le_count hwords hthree; omega
    | _ => omega
  | wordAfterThree hwords hthree =>
    have := three_le_count hwords hthree
    cases h' with
    | wordAfterThree hwords' hthree' =>
      have heq := eq_of_count_eq (hwords.symm.trans hwords') (hthree.trans hthree'.symm)
      rw [(List.cons.inj heq).1]
    | _ => omega

end Defect.Spoils

/-! ## Rules -/

/-- No section of a rule holds the delimiter. -/
structure RawRule.Delimited (rule : RawRule) : Prop where
  targets : delimiter ∉ rule.targets
  sources : delimiter ∉ rule.sources
  command : delimiter ∉ rule.command

theorem RawRule.Delimited.isClosed {rule : RawRule} (h : rule.Delimited) : IsClosed rule.words := by
  refine ⟨rule.targets ++ delimiter :: rule.sources ++ delimiter :: rule.command, rfl, ?_⟩
  simp [List.count_eq_zero.mpr h.targets, List.count_eq_zero.mpr h.sources, List.count_eq_zero.mpr h.command]

namespace RawRule

/-- A block that is read holds the words of the rule, and what is wrong with one that is not is what its delimiters
tell. -/
theorem ofWords_cases (location : Location) (words : List String) :
    (∃ rule, ofWords location words = .ok rule ∧ rule.location = location ∧ rule.words = words ∧ rule.Delimited) ∨
      ∃ defect, ofWords location words = .error defect ∧ defect.Spoils words := by
  rcases section?_cases words with ⟨hnone, hcount⟩ | ⟨targets, words₁, hsome, rfl, htargets⟩
  · exact Or.inr ⟨.noDelimiter, by simp only [ofWords, hnone], .none hcount⟩
  rcases section?_cases words₁ with ⟨hnone, hcount⟩ | ⟨sources, words₂, hsome₁, rfl, hsources⟩
  · exact Or.inr ⟨.noCommandSection, by simp only [ofWords, hsome, hnone], .one (by simp [htargets, hcount])⟩
  rcases section?_cases words₂ with ⟨hnone, hcount⟩ | ⟨command, words₃, hsome₂, rfl, hcommand⟩
  · cases words₂ with
    | nil =>
      refine Or.inr ⟨.noCommandSection, by simp only [ofWords, hsome, hsome₁, hnone]; rfl, ?_⟩
      exact .nothingAfterTwo (by simp [htargets, hsources])
        (List.getLast?_eq_some_iff.mpr ⟨targets ++ delimiter :: sources, by simp⟩)
    | cons word rest =>
      refine Or.inr ⟨.unterminated, by simp only [ofWords, hsome, hsome₁, hnone]; rfl, ?_⟩
      refine .wordsAfterTwo (by simp [htargets, hsources, hcount]) fun hlast => ?_
      -- the last word follows the second delimiter, and no other delimiter does
      have hsplit : targets ++ delimiter :: (sources ++ delimiter :: word :: rest) =
          (targets ++ delimiter :: sources ++ [delimiter]) ++ word :: rest := by simp
      rw [hsplit, List.getLast?_append_of_ne_nil _ (List.cons_ne_nil _ _)] at hlast
      exact List.count_eq_zero.mp hcount (List.mem_of_getLast? hlast)
  · cases words₃ with
    | nil =>
      refine Or.inl ⟨⟨location, targets, sources, command⟩, by simp only [ofWords, hsome, hsome₁, hsome₂], rfl, ?_, ?_⟩
      · simp [RawRule.words]
      · exact ⟨List.count_eq_zero.mp htargets, List.count_eq_zero.mp hsources, List.count_eq_zero.mp hcommand⟩
    | cons word rest =>
      refine Or.inr ⟨.trailing word, by simp only [ofWords, hsome, hsome₁, hsome₂], ?_⟩
      have hsplit : targets ++ delimiter :: (sources ++ delimiter :: (command ++ delimiter :: word :: rest)) =
          (targets ++ delimiter :: sources ++ delimiter :: command) ++ delimiter :: word :: rest := by simp
      exact .wordAfterThree hsplit (by simp [htargets, hsources, hcommand])

/-- A rule is read from its words. -/
theorem ofWords_words {rule : RawRule} (h : rule.Delimited) : ofWords rule.location rule.words = .ok rule := by
  have htargets : section? rule.words =
      some (rule.targets, rule.sources ++ delimiter :: rule.command ++ [delimiter]) := by
    refine section?_eq_some ?_ h.targets
    simp [words]
  have hsources : section? (rule.sources ++ delimiter :: rule.command ++ [delimiter]) =
      some (rule.sources, rule.command ++ [delimiter]) := section?_eq_some (by simp) h.sources
  have hcommand : section? (rule.command ++ [delimiter]) = some (rule.command, []) := section?_eq_some rfl h.command
  simp only [ofWords, htargets, hsources, hcommand]

/-! ## Rules of blocks -/

/-- `rules` are what `blocks` spell, one after the other, numbered from `number`. -/
structure SpelledBy (origin : String) (number : Nat) (blocks : List Block) (rules : List RawRule) : Prop where
  words : rules.map RawRule.words = blocks.map Block.words
  location : rules.map RawRule.location = blocks.mapIdx fun i block => ⟨origin, number + i, block.line⟩
  delimited : ∀ rule ∈ rules, rule.Delimited

/-- `m` is about the first of `blocks` that is not closed, and says what is wrong with it. -/
def Blames (origin : String) (number : Nat) (blocks : List Block) (m : Malformed) : Prop :=
  ∃ before block after, blocks = before ++ block :: after ∧ (∀ earlier ∈ before, IsClosed earlier.words) ∧
    ¬ IsClosed block.words ∧ m.location = ⟨origin, number + before.length, block.line⟩ ∧ m.defect.Spoils block.words

variable {origin : String} {number : Nat} {block : Block} {blocks : List Block} {rule : RawRule} {rules : List RawRule}
  {m m' : Malformed}

theorem spelledBy_nil_iff : SpelledBy origin number [] rules ↔ rules = [] :=
  ⟨fun h => List.map_eq_nil_iff.mp h.words, fun h => h ▸ ⟨rfl, rfl, by simp⟩⟩

/-- The first rule is spelled by the first block. -/
theorem spelledBy_cons_iff : SpelledBy origin number (block :: blocks) rules ↔
    ∃ rule rest, rules = rule :: rest ∧ rule.location = ⟨origin, number, block.line⟩ ∧ rule.words = block.words ∧
      rule.Delimited ∧ SpelledBy origin (number + 1) blocks rest := by
  have hnumber : (fun (i : Nat) (b : Block) => (⟨origin, number + (i + 1), b.line⟩ : Location)) =
      fun i b => ⟨origin, number + 1 + i, b.line⟩ := by
    funext i b
    rw [Nat.add_assoc, Nat.add_comm 1]
  constructor
  · rintro ⟨hwords, hlocation, hdelimited⟩
    obtain ⟨rule, rest, rfl, hrule, hrest⟩ := List.map_eq_cons_iff.mp hwords
    rw [List.map_cons, List.mapIdx_cons, hnumber] at hlocation
    obtain ⟨hfirst, htail⟩ := List.cons.inj hlocation
    obtain ⟨hhead, hothers⟩ := List.forall_mem_cons.mp hdelimited
    exact ⟨rule, rest, rfl, hfirst, hrule, hhead, hrest, htail, hothers⟩
  · rintro ⟨rule, rest, rfl, hlocation, hwords, hdelimited, hrest⟩
    refine ⟨?_, ?_, List.forall_mem_cons.mpr ⟨hdelimited, hrest.delimited⟩⟩
    · rw [List.map_cons, List.map_cons, hwords, hrest.words]
    · rw [List.map_cons, List.mapIdx_cons, hnumber, hlocation, hrest.location]
      rfl

theorem SpelledBy.isClosed (h : SpelledBy origin number blocks rules) : ∀ block ∈ blocks, IsClosed block.words := by
  intro block hblock
  have hmem : block.words ∈ rules.map RawRule.words := h.words ▸ List.mem_map_of_mem hblock
  obtain ⟨rule, hrule, heq⟩ := List.mem_map.mp hmem
  exact heq ▸ (h.delimited rule hrule).isClosed

/-- A block that is closed before the others takes no blame. -/
theorem Blames.cons (hblock : IsClosed block.words) (h : Blames origin (number + 1) blocks m) :
    Blames origin number (block :: blocks) m := by
  obtain ⟨before, bad, after, rfl, hbefore, hbad, hlocation, hspoils⟩ := h
  refine ⟨block :: before, bad, after, rfl, List.forall_mem_cons.mpr ⟨hblock, hbefore⟩, hbad, ?_, hspoils⟩
  rw [hlocation, List.length_cons, Nat.add_assoc, Nat.add_comm 1]

/-- One block is to blame, for one reason. -/
theorem Blames.unique (h : Blames origin number blocks m) (h' : Blames origin number blocks m') : m = m' := by
  obtain ⟨before, block, after, rfl, hclosed, hopen, hlocation, hspoils⟩ := h
  obtain ⟨before', block', after', heq, hclosed', hopen', hlocation', hspoils'⟩ := h'
  rcases same_or_before heq with ⟨rfl, rfl, -⟩ | ⟨more, rfl⟩ | ⟨more, rfl⟩
  · obtain ⟨location, defect⟩ := m
    obtain ⟨location', defect'⟩ := m'
    obtain rfl : location = location' := hlocation.trans hlocation'.symm
    obtain rfl : defect = defect' := hspoils.unique hspoils'
    rfl
  · exact absurd (hclosed' block (by simp)) hopen
  · exact absurd (hclosed block' (by simp)) hopen'

/-- Reading blocks gives the rules that they spell, or is about the first that spells none. -/
theorem ofBlocks_cases (origin : String) (number : Nat) (blocks : List Block) :
    (∃ rules, ofBlocks origin number blocks = .ok rules ∧ SpelledBy origin number blocks rules) ∨
      ∃ m, ofBlocks origin number blocks = .error m ∧ Blames origin number blocks m := by
  induction blocks generalizing number with
  | nil => exact Or.inl ⟨[], rfl, spelledBy_nil_iff.mpr rfl⟩
  | cons block blocks ih =>
    rcases ofWords_cases ⟨origin, number, block.line⟩ block.words with
      ⟨rule, hrule, hlocation, hwords, hdelimited⟩ | ⟨defect, herror, hspoils⟩
    · rcases ih (number + 1) with ⟨rules, hrules, hspelled⟩ | ⟨m, hm, hblames⟩
      · refine Or.inl ⟨rule :: rules, by simp only [ofBlocks, hrule, hrules, Except.map], ?_⟩
        exact spelledBy_cons_iff.mpr ⟨rule, rules, rfl, hlocation, hwords, hdelimited, hspelled⟩
      · exact Or.inr ⟨m, by simp only [ofBlocks, hrule, hm, Except.map], hblames.cons (hwords ▸ hdelimited.isClosed)⟩
    · refine Or.inr ⟨⟨⟨origin, number, block.line⟩, defect⟩, by simp only [ofBlocks, herror], ?_⟩
      exact ⟨[], block, blocks, rfl, by simp, hspoils.not_isClosed, rfl, hspoils⟩

/-- The rules that blocks spell are read from them. -/
theorem ofBlocks_of_spelledBy (h : SpelledBy origin number blocks rules) :
    ofBlocks origin number blocks = .ok rules := by
  induction blocks generalizing number rules with
  | nil => rw [spelledBy_nil_iff.mp h, ofBlocks]
  | cons block blocks ih =>
    obtain ⟨rule, rest, rfl, hlocation, hwords, hdelimited, hrest⟩ := spelledBy_cons_iff.mp h
    have hread := ofWords_words hdelimited
    rw [hlocation, hwords] at hread
    simp only [ofBlocks, hread, ih hrest, Except.map]

theorem ofBlocks_eq_ok_iff : ofBlocks origin number blocks = .ok rules ↔ SpelledBy origin number blocks rules := by
  refine ⟨fun h => ?_, ofBlocks_of_spelledBy⟩
  rcases ofBlocks_cases origin number blocks with ⟨rules', hok, hspelled⟩ | ⟨m, herror, -⟩
  · rw [h] at hok
    exact Except.ok.inj hok ▸ hspelled
  · rw [h] at herror
    cases herror

theorem ofBlocks_eq_error_iff : ofBlocks origin number blocks = .error m ↔ Blames origin number blocks m := by
  rcases ofBlocks_cases origin number blocks with ⟨rules, hok, hspelled⟩ | ⟨m', herror, hblames⟩
  · refine ⟨fun h => ?_, fun ⟨before, block, after, heq, _, hopen, _⟩ => ?_⟩
    · rw [hok] at h
      cases h
    · exact absurd (hspelled.isClosed block (by simp [heq])) hopen
  · rw [herror]
    exact ⟨fun h => Except.error.inj h ▸ hblames, fun h => congrArg _ (hblames.unique h)⟩

/-- Blocks are read exactly if every one of them is closed. -/
theorem exists_ofBlocks_eq_ok_iff :
    (∃ rules, ofBlocks origin number blocks = .ok rules) ↔ ∀ block ∈ blocks, IsClosed block.words := by
  rcases ofBlocks_cases origin number blocks with
    ⟨rules, hok, hspelled⟩ | ⟨m, herror, before, block, after, rfl, -, hopen, -⟩
  · exact ⟨fun _ => hspelled.isClosed, fun _ => ⟨rules, hok⟩⟩
  · refine ⟨fun ⟨rules, hok⟩ => ?_, fun hclosed => absurd (hclosed block (by simp)) hopen⟩
    rw [herror] at hok
    cases hok

/-! ## Rules of a text -/

/-- The rules of a text follow from its lines:
- the blocks are the maximal runs of lines that are not blank, in order, with the number of their first line;
- there are rules exactly if in every block the third delimiter is the last word;
- the rules are then the ones that have the words of the blocks, one for each, numbered from 1, no section of which
  holds the delimiter, and together they have the words of the text;
- otherwise the first block of which this is not so is to blame, for the reason that its delimiters tell. -/
theorem ofText_follows_grammar (text origin : String) :
    (∀ blocks, Block.AreOf text blocks ↔ blocks = Block.ofText text) ∧
      ((∃ rules, ofText text origin = .ok rules) ↔ ∀ block ∈ Block.ofText text, IsClosed block.words) ∧
      (∀ rules, ofText text origin = .ok rules ↔ SpelledBy origin 1 (Block.ofText text) rules) ∧
      (∀ rules, ofText text origin = .ok rules → rules.flatMap words = Text.words text) ∧
      ∀ m, ofText text origin = .error m ↔ Blames origin 1 (Block.ofText text) m := by
  refine ⟨fun _ => Block.areOf_iff, exists_ofBlocks_eq_ok_iff, fun rules => ofBlocks_eq_ok_iff, fun rules h => ?_,
    fun m => ofBlocks_eq_error_iff⟩
  rw [List.flatMap_def, (ofBlocks_eq_ok_iff.mp h).words, ← List.flatMap_def, Block.flatMap_words_ofText]

/-- Two blocks with a line between them that is blank but not empty; `tail` ends the last line. -/
def sampleText (tail : String) : String :=
  "B\r\n:\r\nA :\u00A0cp --x=a:b\r\n:\r\n\u2003\r\nC : B : cp B C :" ++ tail

/-- The second block of the sample is at its sixth line, and a word after the third delimiter spoils it. -/
theorem ofText_follows_grammar_sample :
    (∃ rules, ofText (sampleText "") "rules" = .ok rules ∧
        rules.map RawRule.location = [⟨"rules", 1, 1⟩, ⟨"rules", 2, 6⟩] ∧
        rules.flatMap words = Text.words (sampleText "") ∧ ∀ rule ∈ rules, rule.Delimited) ∧
      ∃ m, ofText (sampleText " x") "rules" = .error m ∧ m = ⟨⟨"rules", 2, 6⟩, .trailing "x"⟩ ∧
        Blames "rules" 1 (Block.ofText (sampleText " x")) m := by
  constructor
  · have hread : (ofText (sampleText "") "rules").toOption.map (·.map RawRule.location) =
        some [⟨"rules", 1, 1⟩, ⟨"rules", 2, 6⟩] := by decide +kernel
    obtain ⟨-, -, hspelled, hwords, -⟩ := ofText_follows_grammar (sampleText "") "rules"
    cases h : ofText (sampleText "") "rules" with
    | error m => rw [h] at hread; cases hread
    | ok rules =>
      rw [h] at hread
      exact ⟨rules, rfl, Option.some.inj hread, hwords rules h, ((hspelled rules).mp h).delimited⟩
  · have hread : (match ofText (sampleText " x") "rules" with
        | .ok _ => none
        | .error m => some m) = some ⟨⟨"rules", 2, 6⟩, .trailing "x"⟩ := by decide +kernel
    obtain ⟨-, -, -, -, hblames⟩ := ofText_follows_grammar (sampleText " x") "rules"
    cases h : ofText (sampleText " x") "rules" with
    | ok rules => rw [h] at hread; cases hread
    | error m =>
      rw [h] at hread
      exact ⟨m, rfl, Option.some.inj hread, (hblames m).mp h⟩

end RawRule

end Rebuild
