import Mathlib.Algebra.GroupWithZero.Nat
import Rebuild.Proofs.Rule.Grammar
import Rebuild.Proofs.Rule.Validation
import Rebuild.Rule.Loading
import Rebuild.Store

/-!
# Loading files and reading one text

- A rule set is spelled by the words of blocks at their places (`RuleSet.ofPlaced`). Neither reading nor checking looks
  at a place, so moving all places moves those of the result and no more (`RuleSet.ofPlaced_relocate`);
- the blocks of texts with an empty line between each two are those of the texts, further down
  (`blocks_joinedText_cons`). `Location.inFiles` finds the place in the files for a place in the joined text, so it
  moves the blocks of the one to the blocks of the others (`map_inFiles_placed`);
- files are loaded one after the other up to the first that cannot be (`RawRule.loadAll_eq_error_iff`), and nothing is
  checked before.

Together: `load_follows_joined_text`.
-/

namespace Rebuild

/-! ## Moving places -/

/-- The defect with the place of an earlier rule, if it has one, moved by `f`. -/
def Defect.relocate (f : Location → Location) : Defect → Defect
  | .duplicate target first => .duplicate target (f first)
  | defect => defect

/-- The malformed block with its place moved by `f`. -/
def Malformed.relocate (f : Location → Location) (m : Malformed) : Malformed :=
  ⟨f m.location, m.defect.relocate f⟩

/-- What the delimiters tell names no place. -/
theorem Defect.Spoils.relocate_eq {words : List String} {defect : Defect} (h : defect.Spoils words)
    (f : Location → Location) : defect.relocate f = defect := by
  cases h <;> rfl

/-- What is wrong with a rule on its own names no place. -/
theorem RawRule.relocate_of_target_eq_error {rule : RawRule} {defect : Defect} (h : rule.target = .error defect)
    (f : Location → Location) : defect.relocate f = defect := by
  unfold RawRule.target at h
  split at h
  · cases h; rfl
  · cases h; rfl
  · split at h <;> cases h <;> rfl

namespace RawRule

variable {f : Location → Location}

/-- The rule with its place moved by `f`. -/
def relocate (f : Location → Location) (rule : RawRule) : RawRule :=
  { rule with location := f rule.location }

/-- The rule that words at a place spell. -/
def ofPlaced (p : Location × List String) : Except Malformed RawRule :=
  (ofWords p.1 p.2).mapError (⟨p.1, ·⟩)

theorem ofPlaced_relocate (location : Location) (words : List String) : ofPlaced (f location, words) =
    ((ofPlaced (location, words)).map (relocate f)).mapError (Malformed.relocate f) := by
  unfold ofPlaced
  rcases ofWords_cases location words with ⟨rule, hrule, rfl, rfl, hdelimited⟩ | ⟨defect, herror, hspoils⟩
  · have hmoved : (rule.relocate f).Delimited := ⟨hdelimited.targets, hdelimited.sources, hdelimited.command⟩
    have hread : ofWords (f rule.location) rule.words = .ok (rule.relocate f) := ofWords_words hmoved
    rw [hrule, hread]
    rfl
  · rcases ofWords_cases (f location) words with ⟨rule, _, _, rfl, hdelimited⟩ | ⟨defect', herror', hspoils'⟩
    · exact absurd hdelimited.isClosed hspoils.not_isClosed
    · obtain rfl := hspoils.unique hspoils'
      rw [herror, herror']
      show Except.error (⟨f location, defect⟩ : Malformed) = .error ⟨f location, defect.relocate f⟩
      rw [hspoils.relocate_eq]

/-- Reading blocks does not look at their places. -/
theorem mapM_ofPlaced_relocate (l : List (Location × List String)) : (l.map (Prod.map f id)).mapM ofPlaced =
    ((l.mapM ofPlaced).map (·.map (relocate f))).mapError (Malformed.relocate f) := by
  induction l with
  | nil => rfl
  | cons p l ih =>
    rw [List.map_cons, List.mapM_cons, List.mapM_cons, ih]
    show (ofPlaced (f p.1, p.2) >>= _) = _
    rw [ofPlaced_relocate]
    cases ofPlaced (p.1, p.2) with
    | error m => rfl
    | ok rule => cases l.mapM ofPlaced <;> rfl

/-- What is wrong with a block is said of its place, and a rule that is read has the place of its block. -/
theorem location_of_mapM_ofPlaced (l : List (Location × List String)) :
    (∃ m, l.mapM ofPlaced = .error m ∧ m.location ∈ l.map Prod.fst) ∨
      ∃ rules, l.mapM ofPlaced = .ok rules ∧ rules.map location = l.map Prod.fst := by
  induction l with
  | nil => exact Or.inr ⟨[], rfl, rfl⟩
  | cons p l ih =>
    obtain ⟨location, words⟩ := p
    rw [List.mapM_cons, List.map_cons, ofPlaced]
    rcases ofWords_cases location words with ⟨rule, hrule, rfl, -, -⟩ | ⟨defect, herror, -⟩
    · rw [hrule]
      rcases ih with ⟨m, hm, hmem⟩ | ⟨rules, hrules, hlocations⟩
      · rw [hm]
        exact Or.inl ⟨m, rfl, List.mem_cons_of_mem _ hmem⟩
      · rw [hrules]
        exact Or.inr ⟨rule :: rules, rfl, congrArg _ hlocations⟩
    · rw [herror]
      exact Or.inl ⟨⟨location, defect⟩, rfl, List.mem_cons_self⟩

end RawRule

namespace RuleSet

variable {f : Location → Location} {m : Malformed}

theorem lookup_map_relocate (seen : List (Name × Location)) (name : Name) :
    (seen.map (Prod.map id f)).lookup name = (seen.lookup name).map f := by
  induction seen with
  | nil => rfl
  | cons p seen ih =>
    rw [List.map_cons, List.lookup_cons, List.lookup_cons, ih]
    show (match name == p.1 with | true => some (f p.2) | false => _) = _
    cases name == p.1 <;> rfl

/-- Checking rules does not look at their places. -/
theorem targetsOfRawRules_relocate (seen : List (Name × Location)) (rules : List RawRule) :
    targetsOfRawRules (seen.map (Prod.map id f)) (rules.map (RawRule.relocate f)) =
      (targetsOfRawRules seen rules).mapError (Malformed.relocate f) := by
  induction rules generalizing seen with
  | nil => rfl
  | cons rule rules ih =>
    have htarget : (rule.relocate f).target = rule.target := rfl
    rw [List.map_cons, targetsOfRawRules, targetsOfRawRules, htarget]
    cases ht : rule.target with
    | error defect =>
      show Except.error (⟨f rule.location, defect⟩ : Malformed) = .error ⟨f rule.location, defect.relocate f⟩
      rw [RawRule.relocate_of_target_eq_error ht]
    | ok t =>
      dsimp only
      rw [lookup_map_relocate]
      cases seen.lookup t.name with
      | some first => rfl
      | none =>
        have hrest := ih ((t.name, rule.location) :: seen)
        rw [List.map_cons] at hrest
        show (targetsOfRawRules (Prod.map id f (t.name, rule.location) :: _) _).map _ = _
        rw [hrest]
        cases targetsOfRawRules ((t.name, rule.location) :: seen) rules <;> rfl

theorem ofRawRules_relocate (rules : List RawRule) :
    ofRawRules (rules.map (RawRule.relocate f)) = (ofRawRules rules).mapError (Malformed.relocate f) := by
  have hmap : (ofRawRules (rules.map (RawRule.relocate f))).map targets =
      ((ofRawRules rules).map targets).mapError (Malformed.relocate f) := by
    rw [map_targets_ofRawRules, map_targets_ofRawRules, ← targetsOfRawRules_relocate]
    rfl
  cases hmoved : ofRawRules (rules.map (RawRule.relocate f)) with
  | error m =>
    cases hplain : ofRawRules rules with
    | error m' => rw [hmoved, hplain] at hmap; exact congrArg _ (Except.error.inj hmap)
    | ok set => rw [hmoved, hplain] at hmap; cases hmap
  | ok set =>
    cases hplain : ofRawRules rules with
    | error m' => rw [hmoved, hplain] at hmap; cases hmap
    | ok set' => rw [hmoved, hplain] at hmap; exact congrArg _ (RuleSet.ext (Except.ok.inj hmap))

/-- What is wrong with rules is said of the place of one of them. -/
theorem location_of_targetsOfRawRules {seen : List (Name × Location)} {rules : List RawRule}
    (h : targetsOfRawRules seen rules = .error m) : m.location ∈ rules.map RawRule.location := by
  induction rules generalizing seen with
  | nil => cases h
  | cons rule rules ih =>
    unfold targetsOfRawRules at h
    split at h
    · cases h
      exact List.mem_cons_self
    · next t ht =>
      split at h
      · cases h
        exact List.mem_cons_self
      · cases hrest : targetsOfRawRules ((t.name, rule.location) :: seen) rules with
        | error m' =>
          rw [hrest] at h
          cases h
          exact List.mem_cons_of_mem _ (ih hrest)
        | ok ts => rw [hrest] at h; cases h

/-- The rule set that blocks with their places spell. -/
def ofPlaced (l : List (Location × List String)) : Except Malformed RuleSet :=
  l.mapM RawRule.ofPlaced >>= ofRawRules

/-- Moving the places of blocks moves those of the result. -/
theorem ofPlaced_relocate (l : List (Location × List String)) :
    ofPlaced (l.map (Prod.map f id)) = (ofPlaced l).mapError (Malformed.relocate f) := by
  unfold ofPlaced
  rw [RawRule.mapM_ofPlaced_relocate]
  cases l.mapM RawRule.ofPlaced with
  | error m => rfl
  | ok rules => exact ofRawRules_relocate rules

/-- What is wrong with blocks is said of the place of one of them. -/
theorem location_of_ofPlaced {l : List (Location × List String)} (h : ofPlaced l = .error m) :
    m.location ∈ l.map Prod.fst := by
  unfold ofPlaced at h
  rcases RawRule.location_of_mapM_ofPlaced l with ⟨m', hm, hmem⟩ | ⟨rules, hrules, hlocations⟩
  · rw [hm] at h
    cases h
    exact hmem
  · rw [hrules] at h
    have hrefused : ofRawRules rules = .error m := h
    have htargets : targetsOfRawRules [] rules = .error m := by
      rw [← map_targets_ofRawRules, hrefused]
      rfl
    exact hlocations ▸ location_of_targetsOfRawRules htargets

end RuleSet

/-! ## Blocks with their places -/

/-- The place some blocks and lines further down in the same text. -/
def Location.below (blocks lines : Nat) (l : Location) : Location :=
  ⟨l.origin, l.block + blocks, l.line + lines⟩

namespace Block

/-- The words of blocks with their places in a text, the first of which has the number `number`. -/
def placed (origin : String) (number : Nat) (blocks : List Block) : List (Location × List String) :=
  blocks.mapIdx fun i block => (⟨origin, number + i, block.line⟩, block.words)

variable {origin : String} {number : Nat} {block : Block} {blocks blocks' : List Block}

theorem placed_cons : placed origin number (block :: blocks) =
    (⟨origin, number, block.line⟩, block.words) :: placed origin (number + 1) blocks := by
  simp only [placed, List.mapIdx_cons, Nat.add_zero, Nat.add_assoc, Nat.add_comm 1]

theorem placed_append : placed origin number (blocks ++ blocks') =
    placed origin number blocks ++ placed origin (number + blocks.length) blocks' := by
  simp only [placed, List.mapIdx_append, Nat.add_assoc, Nat.add_comm blocks.length]

theorem placed_add (k lines : Nat) : placed origin (number + k) (blocks.map (down lines)) =
    (placed origin number blocks).map (Prod.map (Location.below k lines) id) := by
  induction blocks generalizing number with
  | nil => rfl
  | cons block blocks ih => rw [List.map_cons, placed_cons, placed_cons, List.map_cons, Nat.add_right_comm, ih]; rfl

theorem mem_placed_iff {p : Location × List String} : p ∈ placed origin number blocks ↔
    ∃ i block, blocks[i]? = some block ∧ p = (⟨origin, number + i, block.line⟩, block.words) := by
  simp only [placed, List.mem_mapIdx, List.getElem?_eq_some_iff]
  constructor
  · rintro ⟨i, hi, rfl⟩
    exact ⟨i, _, ⟨hi, rfl⟩, rfl⟩
  · rintro ⟨i, _, ⟨hi, rfl⟩, rfl⟩
    exact ⟨i, hi, rfl⟩

end Block

/-- Reading blocks in order is reading each at its place. -/
theorem RawRule.ofBlocks_eq_mapM (origin : String) (number : Nat) (blocks : List Block) :
    ofBlocks origin number blocks = (Block.placed origin number blocks).mapM ofPlaced := by
  induction blocks generalizing number with
  | nil => rfl
  | cons block blocks ih =>
    rw [Block.placed_cons, List.mapM_cons, ← ih, ofBlocks]
    show _ = (ofWords ⟨origin, number, block.line⟩ block.words).mapError _ >>= _
    cases ofWords ⟨origin, number, block.line⟩ block.words with
    | error defect => rfl
    | ok rule => cases ofBlocks origin (number + 1) blocks <;> rfl

theorem RuleSet.ofText_eq_ofPlaced (text : String) :
    ofText text = ofPlaced (Block.placed inlineOrigin 1 (Block.ofText text)) := by
  unfold ofText ofPlaced RawRule.ofText
  rw [RawRule.ofBlocks_eq_mapM]

/-! ## Files and the text that they make up -/

/-- The texts of files, with an empty line between each two. -/
def joinedText (text : String → String) (paths : List String) : String :=
  "\n\n".intercalate (paths.map text)

/-- The number of blocks of a file. -/
def blocksOf (text : String → String) (path : String) : Nat :=
  (Block.ofText (text path)).length

/-- The number of line feeds from the start of a file to the start of the next in a joined text. -/
def feedsOf (text : String → String) (path : String) : Nat :=
  (text path).toList.count '\n' + 2

/-- The place in files for a place in their joined text. -/
def Location.inFiles (text : String → String) : List String → Location → Location
  | [], l => l
  | path :: paths, l =>
    if l.block ≤ blocksOf text path then { l with origin := path }
    else inFiles text paths ⟨l.origin, l.block - blocksOf text path, l.line - feedsOf text path⟩

/-- The blocks of files with their places. -/
def placedInFiles (text : String → String) (paths : List String) : List (Location × List String) :=
  paths.flatMap fun path => Block.placed path 1 (Block.ofText (text path))

variable {text : String → String} {path : String} {paths : List String}

theorem placedInFiles_cons : placedInFiles text (path :: paths) =
    Block.placed path 1 (Block.ofText (text path)) ++ placedInFiles text paths := rfl

theorem blocks_joinedText_nil : Block.ofText (joinedText text []) = [] := by
  show Block.ofText "" = []
  decide +kernel

/-- The blocks of a joined text are those of the first file, and then those of the others further down. -/
theorem blocks_joinedText_cons : Block.ofText (joinedText text (path :: paths)) =
    Block.ofText (text path) ++ (Block.ofText (joinedText text paths)).map (Block.down (feedsOf text path)) := by
  cases paths with
  | nil => rw [blocks_joinedText_nil, joinedText, List.map_singleton, String.intercalate_singleton, List.map_nil,
      List.append_nil]
  | cons next rest =>
    unfold joinedText
    rw [List.map_cons, List.map_cons, String.intercalate_cons_cons, Block.ofText_append]
    rfl

theorem placed_joinedText_cons {origin : String} :
    Block.placed origin 1 (Block.ofText (joinedText text (path :: paths))) =
      Block.placed origin 1 (Block.ofText (text path)) ++
        (Block.placed origin 1 (Block.ofText (joinedText text paths))).map
          (Prod.map (Location.below (blocksOf text path) (feedsOf text path)) id) := by
  rw [blocks_joinedText_cons, Block.placed_append, ← Block.placed_add]
  rfl

namespace Location

/-- A block of the first file has its place there. -/
theorem inFiles_of_le {l : Location} (h : l.block ≤ blocksOf text path) :
    l.inFiles text (path :: paths) = { l with origin := path } :=
  if_pos h

/-- A block of a later file has the place that it has without the first file. -/
theorem inFiles_below {l : Location} (h : 1 ≤ l.block) :
    (l.below (blocksOf text path) (feedsOf text path)).inFiles text (path :: paths) = l.inFiles text paths := by
  have hlt : ¬ l.block + blocksOf text path ≤ blocksOf text path := by omega
  rw [inFiles, below, if_neg hlt, Nat.add_sub_cancel, Nat.add_sub_cancel]

end Location

/-- The blocks of a joined text are those of the files, and `inFiles` gives the place that a block has there. -/
theorem map_inFiles_placed (text : String → String) (paths : List String) (origin : String) :
    (Block.placed origin 1 (Block.ofText (joinedText text paths))).map (Prod.map (Location.inFiles text paths) id) =
      placedInFiles text paths := by
  induction paths with
  | nil =>
    rw [blocks_joinedText_nil]
    rfl
  | cons path paths ih =>
    rw [placed_joinedText_cons, placedInFiles_cons, List.map_append, List.map_map, ← ih]
    congr 1
    · refine List.ext_getElem (by simp [Block.placed]) fun i hi _ => ?_
      have hle : 1 + i ≤ blocksOf text path := by
        simp only [List.length_map, Block.placed, List.length_mapIdx] at hi
        unfold blocksOf
        omega
      simp [Block.placed, Location.inFiles_of_le, hle]
    · refine List.map_congr_left fun p hp => ?_
      obtain ⟨i, block, _, rfl⟩ := Block.mem_placed_iff.mp hp
      exact Prod.ext (Location.inFiles_below (Nat.le_add_right 1 i)) rfl

/-- A block of a joined text is a block of one of the files; the blocks of the files before it and their line feeds make
the difference between its places. -/
theorem exists_of_mem_placed {origin : String} {p : Location × List String}
    (h : p ∈ Block.placed origin 1 (Block.ofText (joinedText text paths))) :
    ∃ before path after i block, paths = before ++ path :: after ∧ (Block.ofText (text path))[i]? = some block ∧
      p.1 = .below (before.map (blocksOf text)).sum (before.map (feedsOf text)).sum ⟨origin, i + 1, block.line⟩ ∧
      p.1.inFiles text paths = ⟨path, i + 1, block.line⟩ := by
  induction paths generalizing p with
  | nil =>
    rw [blocks_joinedText_nil] at h
    cases h
  | cons path paths ih =>
    rw [placed_joinedText_cons] at h
    rcases List.mem_append.mp h with hp | hp
    · obtain ⟨i, block, hblock, rfl⟩ := Block.mem_placed_iff.mp hp
      have hle : 1 + i ≤ blocksOf text path := by
        have := (List.getElem?_eq_some_iff.mp hblock).1
        unfold blocksOf
        omega
      refine ⟨[], path, paths, i, block, rfl, hblock, ?_, ?_⟩
      · simp [Location.below, Nat.add_comm]
      · rw [Nat.add_comm i]
        exact Location.inFiles_of_le (l := ⟨origin, 1 + i, block.line⟩) hle
    · obtain ⟨q, hq, rfl⟩ := List.mem_map.mp hp
      obtain ⟨before, file, after, i, block, rfl, hblock, hplace, hfile⟩ := ih hq
      refine ⟨path :: before, file, after, i, block, rfl, hblock, ?_, ?_⟩
      · show q.1.below _ _ = _
        rw [hplace]
        simp [Location.below, Nat.add_assoc, Nat.add_comm]
      · have hpos : 1 ≤ q.1.block := by
          rw [hplace, Location.below]
          exact Nat.le_add_right_of_le (Nat.le_add_left 1 i)
        exact (Location.inFiles_below hpos).trans hfile

/-! ## Loading -/

namespace RawRule

variable {σ : Type u} [FileView σ] {w : σ} {content : String} {failure : Failure}

/-- The rules of a file that can be read are those of its text. -/
theorem load_eq (h : FileView.readText w path = .ok content) :
    load w path = (ofBlocks path 1 (Block.ofText content)).mapError .malformedRule := by
  unfold load
  rw [h]
  rfl

/-- Files that can all be read are loaded block by block. -/
theorem loadAll_eq (h : ∀ path ∈ paths, FileView.readText w path = .ok (text path)) :
    loadAll w paths = ((placedInFiles text paths).mapM ofPlaced).mapError .malformedRule := by
  induction paths with
  | nil => rfl
  | cons path paths ih =>
    obtain ⟨hpath, hpaths⟩ := List.forall_mem_cons.mp h
    rw [loadAll, load_eq hpath, ih hpaths, ofBlocks_eq_mapM, placedInFiles_cons, List.mapM_append]
    cases (Block.placed path 1 (Block.ofText (text path))).mapM ofPlaced with
    | error m => rfl
    | ok rules =>
      show Except.map _ (((placedInFiles text paths).mapM ofPlaced).mapError _) =
        ((placedInFiles text paths).mapM ofPlaced >>= _).mapError _
      cases (placedInFiles text paths).mapM ofPlaced <;> rfl

theorem loadAll_cons_eq_error_iff : loadAll w (path :: paths) = .error failure ↔
    load w path = .error failure ∨ (∃ rules, load w path = .ok rules) ∧ loadAll w paths = .error failure := by
  rw [loadAll]
  cases load w path with
  | error failure' => simp
  | ok rules => cases loadAll w paths <;> simp [Except.map]

/-- Files fail to load with the first of them that does. -/
theorem loadAll_eq_error_iff : loadAll w paths = .error failure ↔
    ∃ before path after, paths = before ++ path :: after ∧ (∀ earlier ∈ before, ∃ rules, load w earlier = .ok rules) ∧
      load w path = .error failure := by
  constructor
  · intro h
    induction paths with
    | nil => cases h
    | cons path paths ih =>
      rcases loadAll_cons_eq_error_iff.mp h with hbad | ⟨hok, hrest⟩
      · exact ⟨[], path, paths, rfl, by simp, hbad⟩
      · obtain ⟨before, bad, after, rfl, hbefore, hbad⟩ := ih hrest
        exact ⟨path :: before, bad, after, rfl, List.forall_mem_cons.mpr ⟨hok, hbefore⟩, hbad⟩
  · rintro ⟨before, path, after, rfl, hbefore, hbad⟩
    induction before with
    | nil => exact loadAll_cons_eq_error_iff.mpr (Or.inl hbad)
    | cons first before ih =>
      obtain ⟨hfirst, hbefore⟩ := List.forall_mem_cons.mp hbefore
      exact loadAll_cons_eq_error_iff.mpr (Or.inr ⟨hfirst, ih hbefore⟩)

/-- Where all files are loaded, each of them is. -/
theorem exists_load_of_loadAll {rules : List RawRule} (h : loadAll w paths = .ok rules) :
    ∀ path ∈ paths, ∃ rules, load w path = .ok rules := by
  induction paths generalizing rules with
  | nil => simp
  | cons path paths ih =>
    rw [loadAll] at h
    cases hload : load w path with
    | error failure => rw [hload] at h; cases h
    | ok first =>
      rw [hload] at h
      cases hrest : loadAll w paths with
      | error failure => simp [hrest, Except.map] at h
      | ok rest => exact List.forall_mem_cons.mpr ⟨⟨first, hload⟩, ih hrest⟩

/-- A file that can be read is loaded exactly if all its blocks are closed. -/
theorem exists_load_eq_ok_iff (h : FileView.readText w path = .ok content) :
    (∃ rules, load w path = .ok rules) ↔ ∀ block ∈ Block.ofText content, IsClosed block.words := by
  have hiff : (∃ rules, ofBlocks path 1 (Block.ofText content) = .ok rules) ↔ _ := exists_ofBlocks_eq_ok_iff
  rw [← hiff, load_eq h]
  cases ofBlocks path 1 (Block.ofText content) <;> simp [Except.mapError]

/-- Otherwise its first block that is not closed is to blame. -/
theorem load_eq_error_iff (h : FileView.readText w path = .ok content) : load w path = .error failure ↔
    ∃ m, failure = .malformedRule m ∧ Blames path 1 (Block.ofText content) m := by
  simp only [← ofBlocks_eq_error_iff, load_eq h]
  cases ofBlocks path 1 (Block.ofText content) <;> simp [Except.mapError, eq_comm]

/-- `m` is about the first block of files that is not closed, and says what is wrong with it. -/
def BlamesIn (text : String → String) (paths : List String) (m : Malformed) : Prop :=
  ∃ before path after, paths = before ++ path :: after ∧
    (∀ earlier ∈ before, ∀ block ∈ Block.ofText (text earlier), IsClosed block.words) ∧
    Blames path 1 (Block.ofText (text path)) m

/-- Up to the first file that cannot be read, the first block that is not closed ends the loading, and only if there is
none does this file. -/
theorem loadAll_eq_error_iff_of_unreadable {before after : List String} {fault : FileFault}
    (hbefore : ∀ earlier ∈ before, FileView.readText w earlier = .ok (text earlier))
    (hpath : FileView.readText w path = .error fault) : loadAll w (before ++ path :: after) = .error failure ↔
      (∃ m, failure = .malformedRule m ∧ BlamesIn text before m) ∨
        (failure = .unreadable fault ∧
          ∀ earlier ∈ before, ∀ block ∈ Block.ofText (text earlier), IsClosed block.words) := by
  have hload : load w path = .error (.unreadable fault) := by rw [load, hpath]
  rw [loadAll_eq_error_iff]
  constructor
  · rintro ⟨good, bad, rest, heq, hgood, hbad⟩
    rcases same_or_before heq with ⟨rfl, rfl, -⟩ | ⟨more, rfl⟩ | ⟨more, rfl⟩
    · refine Or.inr ⟨Except.error.inj (hbad.symm.trans hload), fun earlier he => ?_⟩
      exact (exists_load_eq_ok_iff (hbefore earlier he)).mp (hgood earlier he)
    · obtain ⟨rules, hrules⟩ := hgood path (by simp)
      rw [hload] at hrules
      cases hrules
    · have hread := hbefore bad (by simp)
      have hclosed : ∀ earlier ∈ good, ∀ block ∈ Block.ofText (text earlier), IsClosed block.words := fun earlier he =>
        (exists_load_eq_ok_iff (hbefore earlier (List.mem_append_left _ he))).mp (hgood earlier he)
      obtain ⟨m, rfl, hblames⟩ := (load_eq_error_iff hread).mp hbad
      exact Or.inl ⟨m, rfl, good, bad, more, rfl, hclosed, hblames⟩
  · rintro (⟨m, rfl, good, bad, more, rfl, hclosed, hblames⟩ | ⟨rfl, hclosed⟩)
    · refine ⟨good, bad, more ++ path :: after, by simp, fun earlier he => ?_, ?_⟩
      · exact (exists_load_eq_ok_iff (hbefore earlier (List.mem_append_left _ he))).mpr (hclosed earlier he)
      · exact (load_eq_error_iff (hbefore bad (by simp))).mpr ⟨m, rfl, hblames⟩
    · exact ⟨before, path, after, rfl, fun earlier he =>
        (exists_load_eq_ok_iff (hbefore earlier he)).mpr (hclosed earlier he), hload⟩

end RawRule

namespace RuleSet

variable {σ : Type u} [FileView σ] {w : σ} {rules : RuleSet} {failure : Failure}

theorem load_eq_ok_iff : RuleSet.load w paths = .ok rules ↔
    ∃ raws, RawRule.loadAll w paths = .ok raws ∧ ofRawRules raws = .ok rules := by
  unfold RuleSet.load
  cases RawRule.loadAll w paths with
  | error failure => simp
  | ok raws => cases hrules : ofRawRules raws <;> simp [Except.mapError, hrules]

theorem load_eq_error_iff : RuleSet.load w paths = .error failure ↔ RawRule.loadAll w paths = .error failure ∨
    ∃ raws m, RawRule.loadAll w paths = .ok raws ∧ ofRawRules raws = .error m ∧ failure = .malformedRule m := by
  unfold RuleSet.load
  cases RawRule.loadAll w paths with
  | error failure => simp
  | ok raws => cases hrules : ofRawRules raws <;> simp [Except.mapError, hrules, eq_comm]

/-- Files that can all be read spell what their joined text spells; what is wrong is said of the place in the files. -/
theorem load_eq_ofText (h : ∀ path ∈ paths, FileView.readText w path = .ok (text path)) :
    RuleSet.load w paths = (ofText (joinedText text paths)).mapError fun m =>
      .malformedRule (m.relocate (Location.inFiles text paths)) := by
  have hplaced : RuleSet.load w paths = (ofPlaced (placedInFiles text paths)).mapError .malformedRule := by
    unfold RuleSet.load ofPlaced
    rw [RawRule.loadAll_eq h]
    cases (placedInFiles text paths).mapM RawRule.ofPlaced <;> rfl
  rw [hplaced, ofText_eq_ofPlaced, ← map_inFiles_placed text paths inlineOrigin, ofPlaced_relocate]
  cases ofPlaced (Block.placed inlineOrigin 1 (Block.ofText (joinedText text paths))) <;> rfl

/-- The rules loaded are known by their targets. -/
theorem load_eq_ok_of_targets (h : (RuleSet.load w paths).toOption.map targets = some rules.targets) :
    RuleSet.load w paths = .ok rules := by
  cases hload : RuleSet.load w paths with
  | error failure => rw [hload] at h; cases h
  | ok loaded =>
    rw [hload] at h
    rw [RuleSet.ext (Option.some.inj h)]

end RuleSet

/-- **Loading files is reading one text.** Where all files can be read, they spell a rule set exactly if the text that
they make up, with an empty line between each two, spells it. If something is wrong, it is wrong with the same block of
both, for the same reason. Its number in the text exceeds the one in its file by the number of blocks of the files
before, its line by their line feeds and two for each; the place of an earlier rule is the one in the files likewise.

Where a file cannot be read, the first block of the files before it that is not closed ends the loading, and this file
if there is none: nothing is checked. -/
theorem load_follows_joined_text {σ : Type u} [FileView σ] (w : σ) (text : String → String) (paths : List String) :
    ((∀ path ∈ paths, FileView.readText w path = .ok (text path)) →
      (∀ rules, RuleSet.load w paths = .ok rules ↔ RuleSet.ofText (joinedText text paths) = .ok rules) ∧
      ∀ m, RuleSet.ofText (joinedText text paths) = .error m →
        ∃ before path after i block, paths = before ++ path :: after ∧ (Block.ofText (text path))[i]? = some block ∧
          m.location = ⟨RuleSet.inlineOrigin, i + 1 + (before.map (blocksOf text)).sum,
            block.line + (before.map (feedsOf text)).sum⟩ ∧
          RuleSet.load w paths = .error (.malformedRule
            ⟨⟨path, i + 1, block.line⟩, m.defect.relocate (Location.inFiles text paths)⟩)) ∧
    ∀ before path after fault, paths = before ++ path :: after →
      (∀ earlier ∈ before, FileView.readText w earlier = .ok (text earlier)) →
      FileView.readText w path = .error fault →
        (∃ failure, RuleSet.load w paths = .error failure) ∧
        ∀ failure, RuleSet.load w paths = .error failure ↔
          (∃ m, failure = .malformedRule m ∧ RawRule.BlamesIn text before m) ∨
            (failure = .unreadable fault ∧
              ∀ earlier ∈ before, ∀ block ∈ Block.ofText (text earlier), IsClosed block.words) := by
  refine ⟨fun hread => ?_, ?_⟩
  · have heq := RuleSet.load_eq_ofText hread
    refine ⟨fun rules => ?_, fun m hm => ?_⟩
    · rw [heq]
      cases RuleSet.ofText (joinedText text paths) <;> simp [Except.mapError]
    · have hplaced := hm
      rw [RuleSet.ofText_eq_ofPlaced] at hplaced
      obtain ⟨p, hp, hlocation⟩ := List.mem_map.mp (RuleSet.location_of_ofPlaced hplaced)
      obtain ⟨before, path, after, i, block, hpaths, hblock, hplace, hfile⟩ := exists_of_mem_placed hp
      refine ⟨before, path, after, i, block, hpaths, hblock, hlocation.symm.trans hplace, ?_⟩
      rw [heq, hm, ← hfile, hlocation]
      rfl
  · rintro before path after fault rfl hbefore hpath
    have hiff : ∀ failure, RawRule.loadAll w (before ++ path :: after) = .error failure ↔ _ := fun _ =>
      RawRule.loadAll_eq_error_iff_of_unreadable hbefore hpath
    unfold RuleSet.load
    cases hall : RawRule.loadAll w (before ++ path :: after) with
    | error failure =>
      simp only [hall, Except.error.injEq] at hiff
      refine ⟨⟨failure, rfl⟩, fun failure' => ?_⟩
      rw [← hiff, Except.error.injEq]
    | ok rules =>
      obtain ⟨rules', hload⟩ := RawRule.exists_load_of_loadAll hall path (by simp)
      rw [RawRule.load, hpath] at hload
      cases hload

/-- The second file has the target of the first again, in its second block and third line, which are the third block and
the fifth line of the joined text; the first text ends without a line feed. Before a file that is absent this makes no
difference, and so does not a block behind it that is not closed. -/
theorem load_follows_joined_text_duplicate :
    let text := fun path => if path = "one" then "B : A : cat A :" else "C : B : cat B :\n\nB : C : cat C :\n"
    let s := Store.empty.applyAll [.write "one" (text "one").toUTF8, .write "two" (text "two").toUTF8,
      .write "open" "D : C".toUTF8]
    (∀ path ∈ ["one", "two"], FileView.readText s path = .ok (text path)) ∧
      RuleSet.ofText (joinedText text ["one", "two"]) =
        .error ⟨⟨"<rules>", 3, 5⟩, .duplicate "B" ⟨"<rules>", 1, 1⟩⟩ ∧
      RuleSet.load s ["one", "two"] = .error (.malformedRule ⟨⟨"two", 2, 3⟩, .duplicate "B" ⟨"one", 1, 1⟩⟩) ∧
      FileView.readText s "three" = .error (.absent "three") ∧
      RuleSet.load s ["one", "two", "three", "open"] = .error (.unreadable (.absent "three")) := by
  intro text s
  have hread : ∀ path ∈ ["one", "two"], FileView.readText s path = .ok (text path) := by decide +kernel
  have habsent : FileView.readText s "three" = .error (.absent "three") := by decide +kernel
  have hjoined : RuleSet.ofText (joinedText text ["one", "two"]) =
      .error ⟨⟨"<rules>", 3, 5⟩, .duplicate "B" ⟨"<rules>", 1, 1⟩⟩ := by
    have h : (match RuleSet.ofText (joinedText text ["one", "two"]) with
        | .ok _ => none
        | .error m => some m) = some ⟨⟨"<rules>", 3, 5⟩, .duplicate "B" ⟨"<rules>", 1, 1⟩⟩ := by decide +kernel
    cases hr : RuleSet.ofText (joinedText text ["one", "two"]) with
    | ok rules => rw [hr] at h; cases h
    | error m => rw [hr] at h; exact congrArg _ (Option.some.inj h)
  have hclosed : ∀ path ∈ ["one", "two"], ∀ block ∈ Block.ofText (text path), IsClosed block.words := by
    intro path hpath
    have hloads : ∀ path ∈ ["one", "two"], (RawRule.load s path).toOption.isSome = true := by decide +kernel
    refine (RawRule.exists_load_eq_ok_iff (hread path hpath)).mp ?_
    cases hload : RawRule.load s path with
    | ok rules => exact ⟨rules, rfl⟩
    | error failure =>
      have := hloads path hpath
      rw [hload] at this
      cases this
  obtain ⟨_, hunreadable⟩ := load_follows_joined_text s text ["one", "two", "three", "open"]
  obtain ⟨hboth, _⟩ := load_follows_joined_text s text ["one", "two"]
  obtain ⟨_, hmalformed⟩ := hboth hread
  obtain ⟨before, path, after, i, block, hpaths, hblock, hlocation, hload⟩ := hmalformed _ hjoined
  refine ⟨hread, hjoined, ?_, habsent, ((hunreadable ["one", "two"] "three" ["open"] _ rfl hread habsent).2 _).mpr
    (Or.inr ⟨rfl, hclosed⟩)⟩
  have hone : (Block.ofText (text "one")).length = 1 := by decide +kernel
  have hfeeds : feedsOf text "one" = 2 := by decide +kernel
  have hfirst : Location.inFiles text ["one", "two"] ⟨"<rules>", 1, 1⟩ = ⟨"one", 1, 1⟩ := by decide +kernel
  obtain ⟨hnumber, hline⟩ : 3 = i + 1 + (before.map (blocksOf text)).sum ∧
      5 = block.line + (before.map (feedsOf text)).sum := by
    simpa [RuleSet.inlineOrigin] using hlocation
  have hwhere : before = ["one"] ∧ path = "two" := by
    rcases before with _ | ⟨first, _ | ⟨second, rest⟩⟩
    · -- the text of the first file has one block only
      obtain ⟨rfl, _⟩ := List.cons.inj hpaths
      have hi := (List.getElem?_eq_some_iff.mp hblock).1
      rw [hone] at hi
      simp only [List.map_nil, List.sum_nil] at hnumber
      omega
    · obtain ⟨rfl, htail⟩ := List.cons.inj hpaths
      obtain ⟨rfl, _⟩ := List.cons.inj htail
      exact ⟨rfl, rfl⟩
    · simp at hpaths
  obtain ⟨rfl, rfl⟩ := hwhere
  have hi : i + 1 = 2 := by
    simp only [List.map_cons, List.map_nil, List.sum_cons, List.sum_nil, blocksOf, hone] at hnumber
    omega
  have hl : block.line = 3 := by
    simp only [List.map_cons, List.map_nil, List.sum_cons, List.sum_nil, hfeeds] at hline
    omega
  rw [hload, hi, hl, Defect.relocate, hfirst]

end Rebuild
