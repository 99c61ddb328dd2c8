import Mathlib.Data.List.TakeWhile
import Rebuild.LogLevel
import Rebuild.Proofs.Text.Words

/-!
# The level in force

- Each level is found by its name, and no two have the same (`ofName?_eq_some_iff`);
- a text names a level by its word (`ofText_eq_ok_iff`), whatever capitals it has and the blanks around it
  (`ofText_of_spells`), and is refused with that word if it names none (`ofText_eq_error_iff`);
- of the sources that give a level the first counts: the command line, the environment if it names one, the settings; if
  none does, warnings are logged (`effective_eq_iff`).
-/

namespace Rebuild.Text

/-! ## Trimming and lower case -/

/-- Blanks on either side of a text do not count. -/
theorem trim_append {before text after : String} (hbefore : isBlankText before = true)
    (hafter : isBlankText after = true) : trim (before ++ text ++ after) = trim text := by
  have hbefore : ∀ c ∈ before.toList, isBlank c = true := List.all_eq_true.mp hbefore
  have hafter : ∀ c ∈ after.toList, isBlank c = true := List.all_eq_true.mp hafter
  unfold trim trimChars
  rw [String.toList_append, String.toList_append, List.append_assoc, List.dropWhile_append_of_pos hbefore,
    List.dropWhile_append]
  split
  · next h =>
    rw [List.isEmpty_iff.mp h, List.dropWhile_eq_nil_iff.mpr hafter]
  · rw [List.reverse_append, List.dropWhile_append_of_pos fun c hc => hafter c (List.mem_reverse.mp hc)]

/-- What has no blanks is left as it is. -/
theorem trim_of_not_blank {text : String} (h : ∀ c ∈ text.toList, isBlank c = false) : trim text = text := by
  have hkeep : ∀ cs : List Char, (∀ c ∈ cs, isBlank c = false) → cs.dropWhile isBlank = cs := fun cs hcs =>
    List.dropWhile_eq_self_iff.mpr fun hl => by simp [hcs _ (List.getElem_mem hl)]
  unfold trim trimChars
  rw [hkeep _ h, hkeep _ fun c hc => h c (List.mem_reverse.mp hc), List.reverse_reverse, String.ofList_toList]

/-- The table has the ASCII capitals and no other ASCII character. -/
theorem lowerChar_of_ascii : ∀ n : Fin 128, lowerChar (Char.ofNat n) = (Char.ofNat n).toLower := by
  decide +kernel

theorem lowerAfter_of_ascii {cs : List Char} (h : ∀ c ∈ cs, c.toNat < 128) (before : List Char) :
    lowerAfter before cs = cs.map Char.toLower := by
  induction cs generalizing before with
  | nil => rfl
  | cons c cs ih =>
    obtain ⟨hc, hcs⟩ := List.forall_mem_cons.mp h
    have hlower : lowerChar c = c.toLower := by simpa using lowerChar_of_ascii ⟨c.toNat, hc⟩
    have hsigma : (c == 'Σ') = false := by
      rw [beq_eq_false_iff_ne]; rintro rfl; exact absurd hc (by decide)
    have hdotted : (c == 'İ') = false := by
      rw [beq_eq_false_iff_ne]; rintro rfl; exact absurd hc (by decide)
    simp [lowerAfter, hsigma, hdotted, hlower, ih hcs]

theorem lowerCase_of_ascii {text : String} (h : ∀ c ∈ text.toList, c.toNat < 128) :
    lowerCase text = String.ofList (text.toList.map Char.toLower) := by
  rw [lowerCase, lowerAfter_of_ascii h]

end Rebuild.Text

namespace Rebuild.LogLevel

variable {level : LogLevel}

/-! ## Names -/

@[simp] theorem ofName?_name (level : LogLevel) : ofName? level.name = some level := by
  cases level <;> rfl

theorem ofName?_eq_some_iff {name : String} : ofName? name = some level ↔ name = level.name := by
  constructor
  · intro h
    have h : all.find? (fun level => level.name == name) = some level := h
    have hname : (level.name == name) = true := by simpa using List.find?_some h
    exact (eq_of_beq hname).symm
  · rintro rfl
    exact ofName?_name level

/-! ## Texts -/

/-- A word in lower case that names a level. -/
def Names (word : String) (level : LogLevel) : Prop :=
  word = level.name ∨ word = "warning" ∧ level = .warn

theorem ofWord?_eq_some_iff {word : String} : ofWord? word = some level ↔ Names word level := by
  unfold ofWord? Names
  by_cases hw : word = "warning"
  · subst hw
    cases level <;> decide
  · rw [if_neg (by simpa using hw), ofName?_eq_some_iff]
    simp [hw]

theorem ofText_eq_ok_iff {text : String} : ofText text = .ok level ↔ Names (wordOf text) level := by
  rw [← ofWord?_eq_some_iff, ofText]
  cases ofWord? (wordOf text) <;> simp

/-- A text that names no level is refused with its word. -/
theorem ofText_eq_error_iff {text : String} {u : Unknown} :
    ofText text = .error u ↔ u = ⟨wordOf text⟩ ∧ ∀ level, ¬ Names (wordOf text) level := by
  simp only [← ofWord?_eq_some_iff]
  rw [ofText]
  cases ofWord? (wordOf text) <;> simp [eq_comm]

/-! ## Capitals and blanks -/

/-- A letter is ASCII and no blank. -/
theorem of_isAlpha {c : Char} (hc : c.isAlpha = true) : c.toNat < 128 ∧ Text.isBlank c = false := by
  have hrange : 65 ≤ c.toNat ∧ c.toNat ≤ 122 := by
    rcases Bool.or_eq_true_iff.mp hc with hupper | hlower
    · obtain ⟨hlow, hhigh⟩ : 65 ≤ c.toNat ∧ c.toNat ≤ 90 := of_decide_eq_true hupper
      omega
    · obtain ⟨hlow, hhigh⟩ := Bool.and_eq_true_iff.mp hlower
      have hlow : 97 ≤ c.toNat := of_decide_eq_true hlow
      have hhigh : c.toNat ≤ 122 := of_decide_eq_true hhigh
      omega
  refine ⟨by omega, ?_⟩
  unfold Text.isBlank
  simp
  omega

theorem isAlpha_of_toLower {c : Char} (hc : c.toLower.isLower = true) : c.isAlpha = true := by
  unfold Char.toLower at hc
  split at hc
  · next h => exact Bool.or_eq_true_iff.mpr (Or.inl (decide_eq_true h))
  · exact Bool.or_eq_true_iff.mpr (Or.inr hc)

/-- What names a level is written in lower-case letters. -/
theorem Names.isLower {word : String} (h : Names word level) : ∀ c ∈ word.toList, c.isLower = true := by
  rw [← List.all_eq_true]
  obtain rfl | ⟨rfl, -⟩ := h
  · cases level <;> decide
  · decide

/-- **A text names a level by its word alone**: neither ASCII capitals nor the blanks around it count. -/
theorem ofText_of_spells {before word after name : String} (hbefore : Text.isBlankText before = true)
    (hafter : Text.isBlankText after = true) (hword : word.toList.map Char.toLower = name.toList)
    (hname : Names name level) : ofText (before ++ word ++ after) = .ok level := by
  have hletters : ∀ c ∈ word.toList, c.toNat < 128 ∧ Text.isBlank c = false := fun c hc =>
    of_isAlpha (isAlpha_of_toLower (hname.isLower _ (hword ▸ List.mem_map_of_mem hc)))
  have htrim : Text.trim (before ++ word ++ after) = word := by
    rw [Text.trim_append hbefore hafter, Text.trim_of_not_blank fun c hc => (hletters c hc).2]
  rw [ofText_eq_ok_iff, wordOf, htrim, Text.lowerCase_of_ascii fun c hc => (hletters c hc).1, hword,
    String.ofList_toList]
  exact hname

/-! ## Precedence -/

/-- What gives a level, the first to count first: the command line, the environment, the settings. -/
def sources (commandLine : Option LogLevel) (environment : Option String) (configured : Option LogLevel) :
    List (Option LogLevel) :=
  [commandLine, environment.bind fun text => (ofText text).toOption, configured]

theorem effective_eq_getD (commandLine : Option LogLevel) (environment : Option String) (configured : Option LogLevel) :
    effective commandLine environment configured =
      ((sources commandLine environment configured).findSome? id).getD .warn := by
  unfold effective sources
  generalize environment.bind (fun text => (ofText text).toOption) = named
  cases commandLine <;> cases named <;> cases configured <;> rfl

/-- **The first source that gives a level counts**, and where none does, warnings are logged. An environment that names
no level gives none. -/
theorem effective_eq_iff {commandLine configured : Option LogLevel} {environment : Option String} :
    effective commandLine environment configured = level ↔
      (∃ above below, sources commandLine environment configured = above ++ some level :: below ∧
        ∀ s ∈ above, s = none) ∨
        (∀ s ∈ sources commandLine environment configured, s = none) ∧ level = .warn := by
  rw [effective_eq_getD]
  generalize sources commandLine environment configured = given
  have hsome : given.findSome? id = some level ↔
      ∃ above below, given = above ++ some level :: below ∧ ∀ s ∈ above, s = none := by
    rw [List.findSome?_eq_some_iff]
    exact ⟨fun ⟨above, _, below, hgiven, rfl, hnone⟩ => ⟨above, below, hgiven, hnone⟩,
      fun ⟨above, below, hgiven, hnone⟩ => ⟨above, _, below, hgiven, rfl, hnone⟩⟩
  have hnone : given.findSome? id = none ↔ ∀ s ∈ given, s = none := List.findSome?_eq_none_iff
  rw [← hsome, ← hnone]
  cases given.findSome? id <;> simp [eq_comm]

end Rebuild.LogLevel
