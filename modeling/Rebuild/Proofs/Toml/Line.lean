import Rebuild.Proofs.Toml.Token
import Rebuild.Toml.Document

/-!
# Lines that are read back

A line of a document gives a key a value: here a text, or an array of texts. If the key needs no quotes, the line can be
written (`written_line`), and a document that begins with it begins with the statement that the key has this value
(`statements?_line`).
-/

namespace Rebuild.Toml

/-- An array of texts as tokens, after its opening bracket. -/
def textTokens : List String → List Token
  | [] => [.closeBracket]
  | [text] => [.quoted false text, .closeBracket]
  | text :: texts => .quoted false text :: .comma :: .blanks " " :: textTokens texts

/-- A line that gives a key a value. -/
def line (key : String) (value : List Token) : List Token :=
  .atom key :: .blanks " " :: .equals :: .blanks " " :: (value ++ [.newline])

theorem value?_quoted (depth : Nat) (text : String) (rest : List Token) :
    given (value? depth (.quoted false text :: rest)) = some (.string text, rest) := by
  rw [value?]
  rfl

section

variable {depth : Nat} {ts rest more last : List Token} {v : Value} {vs : List Value}

theorem elements?_nil (hts : ts.dropWhile isFiller = .closeBracket :: more) :
    given (elements? depth ts) = some ([], more) := by
  rw [elements?]
  split
  · next l h => cases hts.symm.trans h; rfl
  · next h => exact absurd hts (h _)

/-- An element is the last, or a comma and other elements come after it. -/
theorem elements?_cons (hts : ∀ l, ts.dropWhile isFiller ≠ .closeBracket :: l)
    (hv : given (value? depth (ts.dropWhile isFiller)) = some (v, rest))
    (hrest : (rest.dropWhile isFiller = .closeBracket :: last ∧ vs = []) ∨
      ∃ more, rest.dropWhile isFiller = .comma :: more ∧ given (elements? depth more) = some (vs, last)) :
    given (elements? depth ts) = some (v :: vs, last) := by
  obtain ⟨_, hv⟩ := given_eq_some_iff.mp hv
  rw [elements?]
  split
  · next l h => exact absurd h (hts l)
  · split
    · next hnone => rw [hv] at hnone; cases hnone
    · next v' rest' hsome =>
      rw [hv] at hsome
      cases hsome
      dsimp only [Shorter.dropWhile]
      rcases hrest with ⟨hclose, rfl⟩ | ⟨more, hcomma, hmore⟩
      · split
        · next l h => cases hclose.symm.trans h; rfl
        · next l h => cases hclose.symm.trans h
        · next h _ => exact absurd hclose (h _)
      · obtain ⟨_, hmore⟩ := given_eq_some_iff.mp hmore
        split
        · next l h => cases hcomma.symm.trans h
        · next l h =>
          cases hcomma.symm.trans h
          rw [hmore]
          rfl
        · next h => exact absurd hcomma (h _)

end

theorem dropWhile_textTokens (texts : List String) (rest : List Token) :
    (textTokens texts ++ rest).dropWhile isFiller = textTokens texts ++ rest := by
  rcases texts with _ | ⟨text, _ | ⟨next, texts⟩⟩ <;> rfl

/-- An array of texts is read up to its closing bracket. -/
theorem elements?_textTokens {depth : Nat} {texts : List String} {ts rest : List Token}
    (h : ts.dropWhile isFiller = textTokens texts ++ rest) :
    given (elements? depth ts) = some (texts.map .string, rest) := by
  induction texts using textTokens.induct generalizing ts with
  | case1 => exact elements?_nil h
  | case2 text =>
    have hv := value?_quoted depth text (.closeBracket :: rest)
    exact elements?_cons (by rw [h]; intro l he; cases he) (by rw [h]; exact hv) (Or.inl ⟨rfl, rfl⟩)
  | case3 text texts hne ih =>
    have htokens : textTokens (text :: texts) = .quoted false text :: .comma :: .blanks " " :: textTokens texts := by
      rw [textTokens]
      exact hne
    rw [htokens] at h
    have hv := value?_quoted depth text (.comma :: .blanks " " :: (textTokens texts ++ rest))
    have hmore : given (elements? depth (.blanks " " :: (textTokens texts ++ rest))) = some (texts.map .string, rest) :=
      ih (dropWhile_textTokens texts rest)
    exact elements?_cons (by rw [h]; intro l he; cases he) (by rw [h]; exact hv) (Or.inr ⟨_, rfl, hmore⟩)

theorem value?_array (depth : Nat) (texts : List String) (rest : List Token) :
    given (value? (depth + 1) (.openBracket :: (textTokens texts ++ rest))) =
      some (.array false (texts.map .string), rest) := by
  have helements : given (elements? depth (textTokens texts ++ rest)) = some (texts.map .string, rest) :=
    elements?_textTokens (dropWhile_textTokens texts rest)
  obtain ⟨_, h⟩ := given_eq_some_iff.mp helements
  rw [value?, h]
  rfl

/-- A blank fits before anything but blanks. -/
theorem fits_blank {rest : List Char} (h : ∀ c ∈ rest.head?, isBlankChar c = false) : Token.Fits rest (.blanks " ") :=
  ⟨by decide, List.all_eq_true.mp (by decide), h⟩

theorem written_textTokens (texts : List String) {rest : List Token} (h : Written rest) :
    Written (textTokens texts ++ rest) := by
  induction texts using textTokens.induct with
  | case1 => exact ⟨trivial, h⟩
  | case2 text => exact ⟨by simp [Token.Fits, Token.chars], trivial, h⟩
  | case3 text texts hne ih =>
    rw [textTokens]
    · refine ⟨by simp [Token.Fits, Token.chars], trivial, fits_blank ?_, ih⟩
      rcases texts with _ | ⟨text, _ | ⟨next, texts⟩⟩ <;> simp [textTokens, Token.chars, isBlankChar]
    · exact hne

/-! ## Lines -/

/-- A key that needs no quotes. -/
structure IsBare (key : String) : Prop where
  ne_empty : key ≠ ""
  all : (key.toList.all fun c => c.isAlphanum || c == '_' || c == '-') = true

/-- A key that needs no quotes is written as it is. -/
theorem IsBare.fits {key : String} (h : IsBare key) {rest : List Char}
    (hrest : ∀ c ∈ rest.head?, isAtomChar c = false) :
    Token.Fits rest (.atom key) := by
  have hspecial : (" \t\r\n#=,.[]\x7b\x7d".toList.all fun c => !(c.isAlphanum || c == '_' || c == '-')) = true := by
    decide
  have hplain : ∀ c ∈ key.toList, isAtomChar c = true ∧ c ≠ '"' ∧ c ≠ '\'' := by
    intro c hc
    have hbare := List.all_eq_true.mp h.all c hc
    refine ⟨?_, ?_, ?_⟩
    · rw [isAtomChar, Bool.not_eq_true', ← Bool.not_eq_true, List.contains_iff_mem]
      intro hmem
      have hnot := List.all_eq_true.mp hspecial c hmem
      rw [hbare] at hnot
      cases hnot
    · rintro rfl
      exact absurd hbare (by decide)
    · rintro rfl
      exact absurd hbare (by decide)
  cases hkey : key.toList with
  | nil => exact absurd (String.toList_eq_nil_iff.mp hkey) h.ne_empty
  | cons c cs =>
    rw [hkey] at hplain
    obtain ⟨⟨hc, hdouble, hsingle⟩, hcs⟩ := List.forall_mem_cons.mp hplain
    exact ⟨⟨c, cs, hkey, hc, hdouble, hsingle, fun d hd => (hcs d hd).1⟩, hrest⟩

theorem line_append (key : String) (value rest : List Token) : line key value ++ rest =
    .atom key :: .blanks " " :: .equals :: .blanks " " :: (value ++ .newline :: rest) := by
  simp [line]

/-- A line can be written before others if its value can. -/
theorem written_line {key : String} (hkey : IsBare key) {value rest : List Token}
    (hvalue : Written (value ++ .newline :: rest))
    (hblank : ∀ c ∈ ((value ++ .newline :: rest).flatMap Token.chars).head?, isBlankChar c = false) :
    Written (line key value ++ rest) := by
  rw [line_append]
  exact ⟨hkey.fits (by simp [Token.chars, isAtomChar]),
    fits_blank (by simp [Token.chars, isBlankChar]), trivial, fits_blank hblank, hvalue⟩

theorem keys?_line {key : String} (hkey : IsBare key) (rest : List Token) :
    given (keys? (.atom key :: .blanks " " :: .equals :: rest)) = some ([key], .equals :: rest) := by
  have hparts : given (keyParts? (.atom key :: .blanks " " :: .equals :: rest)) = some ([key], .equals :: rest) := by
    rw [keyParts?, keyOfToken?, if_pos hkey.all]
    rfl
  obtain ⟨_, hparts⟩ := given_eq_some_iff.mp hparts
  rw [keys?, hparts]
  rfl

/-- A line is the statement that its key has its value. -/
theorem statement?_line {key : String} (hkey : IsBare key) {v : Value} (value rest : List Token)
    (hblank : (value ++ .newline :: rest).dropWhile isBlanks = value ++ .newline :: rest)
    (hv : given (value? maxDepth (value ++ .newline :: rest)) = some (v, .newline :: rest)) :
    given (statement? (line key value ++ rest)) = some (.entry [key] v, rest) := by
  obtain ⟨_, hkeys⟩ := given_eq_some_iff.mp (keys?_line hkey (.blanks " " :: (value ++ .newline :: rest)))
  have hstart : given (value? maxDepth ((Token.blanks " " :: (value ++ .newline :: rest)).dropWhile isBlanks)) =
      some (v, .newline :: rest) := by
    rw [List.dropWhile_cons_of_pos rfl, hblank]
    exact hv
  obtain ⟨_, hstart⟩ := given_eq_some_iff.mp hstart
  rw [line_append, statement?, hkeys]
  · dsimp only [Option.bind_eq_bind, Option.bind_some]
    rw [hstart]
    rfl
  · simp
  · simp

/-- The statements of a document whose first line gives a key a value. -/
theorem statements?_line {key : String} (hkey : IsBare key) {v : Value} (value rest : List Token)
    (hblank : (value ++ .newline :: rest).dropWhile isBlanks = value ++ .newline :: rest)
    (hv : given (value? maxDepth (value ++ .newline :: rest)) = some (v, .newline :: rest)) :
    statements? (line key value ++ rest) = (statements? rest).map (.entry [key] v :: ·) := by
  have hstatement := statement?_line hkey value rest hblank hv
  rw [line_append] at hstatement ⊢
  obtain ⟨_, hstatement⟩ := given_eq_some_iff.mp hstatement
  rw [statements?, if_neg (by simp [isFiller]), hstatement]

end Rebuild.Toml
