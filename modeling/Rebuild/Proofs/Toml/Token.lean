import Mathlib.Algebra.Group.Nat.Defs
import Rebuild.Toml.Token

/-!
# Tokens that are read back

`Token.chars` writes a token: a quoted text in double quotes, with an escape for each character that could not stand for
itself. Each escape is read back (`escape?_hexDigits`), so a quotation is (`shortText?_escaped`, `longText?_escaped`).
A token is read where it is written if it is one that a text can have and what follows does not prolong it
(`Token.Fits`, `token?_of_fits`), and a document that is written token by token is read as these tokens
(`tokensOfChars_of_written`).
-/

namespace Rebuild.Toml

/-- What a reader gives: a value, and what follows it. -/
def given {α β : Type} {P : List β → Prop} (result : Option (α × { l : List β // P l })) : Option (α × List β) :=
  result.map fun r => (r.1, r.2.1)

theorem given_eq_some_iff {α β : Type} {P : List β → Prop} {result : Option (α × { l : List β // P l })} {a : α}
    {l : List β} : given result = some (a, l) ↔ ∃ h : P l, result = some (a, ⟨l, h⟩) := by
  unfold given
  constructor
  · intro h
    obtain ⟨⟨_, l, hl⟩, hr, he⟩ := Option.map_eq_some_iff.mp h
    cases he
    exact ⟨hl, hr⟩
  · rintro ⟨_, h⟩
    rw [h]
    rfl

/-! ## Escapes -/

/-- The hexadecimal digit with a value. -/
def hexChar (n : Nat) : Char :=
  if n < 10 then Char.ofNat ('0'.toNat + n) else Char.ofNat ('a'.toNat + (n - 10))

/-- The last hexadecimal digits of a number, so many of them. -/
def hexDigits : Nat → Nat → List Char
  | 0, _ => []
  | count + 1, n => hexDigits count (n / 16) ++ [hexChar (n % 16)]

theorem hexDigit?_hexChar : ∀ n < 16, hexDigit? (hexChar n) = some n := by
  decide

/-- Digits stand for the number that they are the last digits of, as far as they go. -/
theorem foldlM_hexDigits (count n : Nat) :
    (hexDigits count n).foldlM (fun n c => (hexDigit? c).map (16 * n + ·)) 0 = some (n % 16 ^ count) := by
  induction count generalizing n with
  | zero => simp [hexDigits, Nat.mod_one]
  | succ count ih =>
    have hdigit := hexDigit?_hexChar (n % 16) (Nat.mod_lt _ (by decide))
    have hsplit : 16 * (n / 16 % 16 ^ count) + n % 16 = n % 16 ^ (count + 1) := by
      rw [Nat.pow_succ, Nat.mul_comm (16 ^ count), Nat.mod_mul, Nat.add_comm]
    simp only [hexDigits, List.foldlM_append, ih, Option.bind_eq_bind, Option.bind_some, List.foldlM_cons, hdigit,
      Option.map_some, List.foldlM_nil, hsplit]
    rfl

theorem charOfHex?_hexDigits (c : Char) : charOfHex? (hexDigits 8 c.toNat) = some c := by
  have hvalid : c.toNat.isValidChar := c.valid
  have hlt : c.toNat < 16 ^ 8 := by
    rcases hvalid with h | ⟨_, h⟩ <;> exact Nat.lt_trans h (by decide)
  rw [charOfHex?, foldlM_hexDigits, Nat.mod_eq_of_lt hlt]
  dsimp only
  rw [if_pos hvalid, Char.ofNat_toNat]

/-- The escape of a character by its code point is read back. -/
theorem escape?_hexDigits (c : Char) (rest : List Char) :
    given (escape? ('U' :: (hexDigits 8 c.toNat ++ rest))) = some (c, rest) := by
  have hdigits := charOfHex?_hexDigits c
  simp only [hexDigits, List.nil_append, List.cons_append] at hdigits ⊢
  rw [escape?, hdigits]
  rfl

/-- A character in a quotation: itself, or the escape by its code point if it cannot stand there. -/
def escaped (c : Char) : List Char :=
  if c == '"' || c == '\\' || !isTextChar c then '\\' :: 'U' :: hexDigits 8 c.toNat else [c]

theorem escaped_eq (c : Char) : escaped c = '\\' :: 'U' :: hexDigits 8 c.toNat ∨
    escaped c = [c] ∧ (c == '"') = false ∧ (c == '\\') = false ∧ isTextChar c = true := by
  unfold escaped
  split
  · exact Or.inl rfl
  · next h =>
    simp only [Bool.or_eq_true, not_or, Bool.not_eq_true, Bool.not_eq_false'] at h
    exact Or.inr ⟨rfl, h.1.1, h.1.2, h.2⟩

/-! ## Quotations -/

/-- A quotation of one line is read up to its closing quote. -/
theorem shortText?_escaped (text rest : List Char) :
    given (shortText? '"' true (text.flatMap escaped ++ '"' :: rest)) = some (text, rest) := by
  induction text with
  | nil =>
    rw [List.flatMap_nil, List.nil_append, shortText?]
    rfl
  | cons c text ih =>
    obtain ⟨h, ih⟩ := given_eq_some_iff.mp ih
    rw [List.flatMap_cons, List.append_assoc]
    rcases escaped_eq c with hescaped | ⟨hescaped, hquote, hslash, htext⟩
    · obtain ⟨_, hescape⟩ := given_eq_some_iff.mp (escape?_hexDigits c (text.flatMap escaped ++ '"' :: rest))
      rw [hescaped, List.cons_append, List.cons_append, shortText?, if_neg (by decide), if_pos (by decide), hescape]
      dsimp only
      rw [ih]
      rfl
    · rw [hescaped, List.singleton_append, shortText?, hquote, hslash, if_neg Bool.false_ne_true, Bool.false_and,
        if_neg Bool.false_ne_true, if_pos htext, ih]
      rfl

/-- Right after a quotation of several lines there is no quote, or it would be read as one more of it. -/
theorem longText?_escaped (text : List Char) {rest : List Char} (hrest : rest.head? ≠ some '"') :
    given (longText? '"' true (text.flatMap escaped ++ '"' :: '"' :: '"' :: rest)) = some (text, rest) := by
  induction text with
  | nil =>
    have hstop : rest.takeWhile (· == '"') = [] ∧ rest.dropWhile (· == '"') = rest := by
      cases rest with
      | nil => exact ⟨rfl, rfl⟩
      | cons c rest =>
        have hc : ¬ (c == '"') = true := fun h => hrest (congrArg some (eq_of_beq h))
        exact ⟨List.takeWhile_cons_of_neg hc, List.dropWhile_cons_of_neg hc⟩
    rw [List.flatMap_nil, List.nil_append, longText?]
    simp [Shorter.tail, Shorter.dropWhile, given, hstop]
  | cons c text ih =>
    obtain ⟨h, ih⟩ := given_eq_some_iff.mp ih
    rw [List.flatMap_cons, List.append_assoc]
    rcases escaped_eq c with hescaped | ⟨hescaped, hquote, hslash, htext⟩
    · obtain ⟨_, hescape⟩ :=
        given_eq_some_iff.mp (escape?_hexDigits c (text.flatMap escaped ++ '"' :: '"' :: '"' :: rest))
      rw [hescaped, List.cons_append, List.cons_append, longText?, if_neg (by decide), if_pos (by decide), hescape]
      simp only [lineContinuation?]
      rw [ih]
      rfl
    · rw [hescaped, List.singleton_append, longText?, hquote, hslash, if_neg Bool.false_ne_true, Bool.false_and,
        if_neg Bool.false_ne_true, htext, Bool.true_or, Bool.true_or, if_pos rfl, ih]
      rfl

/-- What is written of a text in quotation marks does not begin with one of them or with a line end. -/
theorem head_flatMap_escaped {text : List Char} {c : Char} (h : (text.flatMap escaped).head? = some c) :
    c ≠ '"' ∧ c ≠ '\n' ∧ c ≠ '\r' := by
  cases text with
  | nil => cases h
  | cons d text =>
    rw [List.flatMap_cons] at h
    rcases escaped_eq d with hd | ⟨hd, hquote, _, htext⟩
    · rw [hd] at h
      obtain rfl : '\\' = c := Option.some.inj h
      decide
    · rw [hd] at h
      obtain rfl : d = c := Option.some.inj h
      refine ⟨fun he => ?_, fun he => ?_, fun he => ?_⟩ <;> subst he
      · cases hquote
      · exact absurd htext (by decide)
      · exact absurd htext (by decide)

/-- A quotation is one of a single line unless it begins with two more quotes. -/
theorem quotation?_of_shortText? {cs text rest : List Char} (hnot : ∀ l, cs ≠ '"' :: '"' :: l)
    (h : given (shortText? '"' true cs) = some (text, rest)) :
    given (quotation? '"' true cs) = some (.quoted false (String.ofList text), rest) := by
  obtain ⟨_, h⟩ := given_eq_some_iff.mp h
  rcases cs with _ | ⟨c1, _ | ⟨c2, l⟩⟩
  · rw [quotation?, h]
    · rfl
    · simp
  · rw [quotation?, h]
    · rfl
    · simp
  · have hquotes : ¬ (c1 == '"' && c2 == '"') = true := fun hb => by
      obtain ⟨h1, h2⟩ := Bool.and_eq_true_iff.mp hb
      exact hnot l (by rw [eq_of_beq h1, eq_of_beq h2])
    rw [quotation?, if_neg hquotes, h]
    rfl

/-- A text in quotes is read, unless it is empty and a further quote follows. -/
theorem quotation?_short (text : String) {rest : List Char} (hrest : rest.head? ≠ some '"') :
    given (quotation? '"' true (text.toList.flatMap escaped ++ '"' :: rest)) = some (.quoted false text, rest) := by
  have hnot : ∀ l, text.toList.flatMap escaped ++ '"' :: rest ≠ '"' :: '"' :: l := by
    intro l he
    cases hl : text.toList.flatMap escaped with
    | nil =>
      rw [hl] at he
      rw [(List.cons.inj he).2] at hrest
      exact hrest rfl
    | cons c cs =>
      rw [hl] at he
      exact (head_flatMap_escaped (by rw [hl]; rfl)).1 (List.cons.inj he).1
  rw [quotation?_of_shortText? hnot (shortText?_escaped text.toList rest), String.ofList_toList]

theorem skipFirstNewline_of_head {cs : List Char} (hn : cs.head? ≠ some '\n') (hr : cs.head? ≠ some '\r') :
    (skipFirstNewline cs).1 = cs := by
  unfold skipFirstNewline
  split
  · exact absurd rfl hn
  · exact absurd rfl hr
  · rfl

/-- A text in three quotes is read, unless a further quote follows. -/
theorem quotation?_long (text : String) {rest : List Char} (hrest : rest.head? ≠ some '"') :
    given (quotation? '"' true ('"' :: '"' :: (text.toList.flatMap escaped ++ '"' :: '"' :: '"' :: rest))) =
      some (.quoted true text, rest) := by
  have hskip : (skipFirstNewline (text.toList.flatMap escaped ++ '"' :: '"' :: '"' :: rest)).1 =
      text.toList.flatMap escaped ++ '"' :: '"' :: '"' :: rest := by
    cases hl : text.toList.flatMap escaped with
    | nil => rfl
    | cons c cs =>
      have hhead : (text.toList.flatMap escaped).head? = some c := by rw [hl]; rfl
      obtain ⟨_, hn, hr⟩ := head_flatMap_escaped hhead
      exact skipFirstNewline_of_head (fun h => hn (Option.some.inj h)) (fun h => hr (Option.some.inj h))
  obtain ⟨_, hlong⟩ := given_eq_some_iff.mp (longText?_escaped text.toList hrest)
  rw [quotation?, if_pos (by decide), given, Option.map_map]
  show (longText? '"' true (skipFirstNewline _).1).map (fun r => (Token.quoted true (String.ofList r.1), r.2.1)) = _
  rw [hskip, hlong, Option.map_some, String.ofList_toList]

/-! ## Tokens -/

/-- A token as it is written. -/
def Token.chars : Token → List Char
  | .newline => ['\n']
  | .blanks text => text.toList
  | .comment => ['#']
  | .equals => ['=']
  | .comma => [',']
  | .dot => ['.']
  | .openBracket => ['[']
  | .closeBracket => [']']
  | .openBrace => ['\x7b']
  | .closeBrace => ['\x7d']
  | .quoted false text => '"' :: (text.toList.flatMap escaped ++ ['"'])
  | .quoted true text => '"' :: '"' :: '"' :: (text.toList.flatMap escaped ++ ['"', '"', '"'])
  | .atom text => text.toList

/-- Whether a token can be written, and is not prolonged by what follows it. -/
def Token.Fits (rest : List Char) : Token → Prop
  | .blanks text => text ≠ "" ∧ (∀ c ∈ text.toList, isBlankChar c = true) ∧ ∀ c ∈ rest.head?, isBlankChar c = false
  | .comment => ∀ c ∈ rest.head?, isTextChar c = false
  | .quoted _ _ => rest.head? ≠ some '"'
  | .atom text =>
    (∃ c cs, text.toList = c :: cs ∧ isAtomChar c = true ∧ c ≠ '"' ∧ c ≠ '\'' ∧ ∀ d ∈ cs, isAtomChar d = true) ∧
      ∀ c ∈ rest.head?, isAtomChar c = false
  | _ => True

/-- A run of characters with a property ends where one without it follows. -/
theorem takeWhile_dropWhile_of_stop {p : Char → Bool} {cs rest : List Char} (hcs : ∀ c ∈ cs, p c = true)
    (hrest : ∀ c ∈ rest.head?, p c = false) :
    (cs ++ rest).takeWhile p = cs ∧ (cs ++ rest).dropWhile p = rest := by
  rw [List.takeWhile_append_of_pos hcs, List.dropWhile_append_of_pos hcs]
  cases rest with
  | nil => exact ⟨List.append_nil cs, rfl⟩
  | cons c rest =>
    have hc : ¬ p c = true := Bool.not_eq_true _ ▸ hrest c rfl
    rw [List.takeWhile_cons_of_neg hc, List.dropWhile_cons_of_neg hc, List.append_nil]
    exact ⟨rfl, rfl⟩

/-- A blank and the blanks after it are one token. -/
theorem token?_blank {c : Char} {cs rest : List Char} (hc : isBlankChar c = true)
    (hcs : ∀ d ∈ cs, isBlankChar d = true) (hrest : ∀ d ∈ rest.head?, isBlankChar d = false) :
    given (token? c (cs ++ rest)) = some (.blanks (String.ofList (c :: cs)), rest) := by
  obtain ⟨htake, hdrop⟩ := takeWhile_dropWhile_of_stop hcs hrest
  have hone : c = ' ' ∨ c = '\t' := by simpa [isBlankChar] using hc
  rcases hone with rfl | rfl
  all_goals
    show some (Token.blanks (String.ofList (_ :: (cs ++ rest).takeWhile isBlankChar)),
      (cs ++ rest).dropWhile isBlankChar) = _
    rw [htake, hdrop]

/-- A character that may stand in an atom, and is no quote, begins one. -/
theorem token?_atom {c : Char} {cs rest : List Char} (hc : isAtomChar c = true) (hdouble : c ≠ '"')
    (hsingle : c ≠ '\'') (hcs : ∀ d ∈ cs, isAtomChar d = true) (hrest : ∀ d ∈ rest.head?, isAtomChar d = false) :
    given (token? c (cs ++ rest)) = some (.atom (String.ofList (c :: cs)), rest) := by
  obtain ⟨htake, hdrop⟩ := takeWhile_dropWhile_of_stop hcs hrest
  have hblank : isBlankChar c = false := by
    cases h : isBlankChar c with
    | false => rfl
    | true =>
      have hone : c = ' ' ∨ c = '\t' := by simpa [isBlankChar] using h
      rcases hone with rfl | rfl <;> exact absurd hc (by decide)
  unfold token?
  dsimp only
  split
  all_goals try exact absurd hc (by decide)
  · exact absurd rfl hdouble
  · exact absurd rfl hsingle
  · rw [if_neg (by rw [hblank]; decide)]
    show some (Token.atom (String.ofList (c :: (cs ++ rest).takeWhile isAtomChar)),
      (cs ++ rest).dropWhile isAtomChar) = _
    rw [htake, hdrop]

/-- A token that fits where it is written is read there. -/
theorem token?_of_fits {t : Token} {rest : List Char} (h : t.Fits rest) :
    ∃ c cs, t.chars ++ rest = c :: cs ∧ given (token? c cs) = some (t, rest) := by
  cases t with
  | blanks text =>
    obtain ⟨hne, hblank, hrest⟩ := h
    cases htext : text.toList with
    | nil => exact absurd (String.toList_eq_nil_iff.mp htext) hne
    | cons c cs =>
      rw [htext] at hblank
      obtain ⟨hc, hcs⟩ := List.forall_mem_cons.mp hblank
      refine ⟨c, cs ++ rest, by rw [Token.chars, htext]; rfl, ?_⟩
      rw [token?_blank hc hcs hrest, ← htext, String.ofList_toList]
  | comment =>
    have hdrop : rest.dropWhile isTextChar = rest := (takeWhile_dropWhile_of_stop (List.forall_mem_nil _) h).2
    refine ⟨'#', rest, rfl, ?_⟩
    show some (Token.comment, rest.dropWhile isTextChar) = _
    rw [hdrop]
  | quoted severalLines text =>
    cases severalLines with
    | false =>
      refine ⟨'"', text.toList.flatMap escaped ++ '"' :: rest, ?_, quotation?_short text h⟩
      simp [Token.chars]
    | true =>
      refine ⟨'"', '"' :: '"' :: (text.toList.flatMap escaped ++ '"' :: '"' :: '"' :: rest), ?_, quotation?_long text h⟩
      simp [Token.chars]
  | atom text =>
    obtain ⟨⟨c, cs, htext, hc, hdouble, hsingle, hcs⟩, hrest⟩ := h
    refine ⟨c, cs ++ rest, by rw [Token.chars, htext]; rfl, ?_⟩
    rw [token?_atom hc hdouble hsingle hcs hrest, ← htext, String.ofList_toList]
  | newline => exact ⟨'\n', rest, rfl, rfl⟩
  | equals => exact ⟨'=', rest, rfl, rfl⟩
  | comma => exact ⟨',', rest, rfl, rfl⟩
  | dot => exact ⟨'.', rest, rfl, rfl⟩
  | openBracket => exact ⟨'[', rest, rfl, rfl⟩
  | closeBracket => exact ⟨']', rest, rfl, rfl⟩
  | openBrace => exact ⟨'\x7b', rest, rfl, rfl⟩
  | closeBrace => exact ⟨'\x7d', rest, rfl, rfl⟩

/-! ## Documents -/

/-- Whether tokens can be written one after the other. -/
def Written : List Token → Prop
  | [] => True
  | t :: ts => t.Fits (ts.flatMap Token.chars) ∧ Written ts

/-- What is written token by token is read as these tokens. -/
theorem tokensOfChars_of_written {ts : List Token} (h : Written ts) :
    tokensOfChars (ts.flatMap Token.chars) = some ts := by
  induction ts with
  | nil => rw [List.flatMap_nil, tokensOfChars]
  | cons t ts ih =>
    obtain ⟨c, cs, hchars, htoken⟩ := token?_of_fits h.1
    obtain ⟨_, htoken⟩ := given_eq_some_iff.mp htoken
    rw [List.flatMap_cons, hchars, tokensOfChars, htoken]
    dsimp only
    rw [ih h.2, Option.map_some]

end Rebuild.Toml
