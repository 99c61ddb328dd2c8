import Rebuild.Proofs.LogLevel
import Rebuild.Proofs.Settings.Reading
import Rebuild.Proofs.Toml.Line

/-!
# Settings that are read back

`Settings.document` writes settings as a document: the rule files as an array of quoted texts, and the level by its
name. Its tokens are read back, whatever the rule files are called (`tokens_document`), and each line is the statement
that sets its key (`statements?_tokens`), so the document gives the settings again (`ofToml_document`).
-/

namespace Rebuild.Settings

/-- The line that sets a log level, if there is one. -/
def levelTokens : Option LogLevel → List Toml.Token
  | none => []
  | some level => Toml.line "log_level" [.quoted false level.name]

/-- The tokens of a document with settings. -/
def tokens (s : Settings) : List Toml.Token :=
  Toml.line "rules" (.openBracket :: Toml.textTokens s.rules) ++ levelTokens s.logLevel

/-- A document with settings. -/
def document (s : Settings) : String :=
  String.ofList (s.tokens.flatMap Toml.Token.chars)

/-- The entries of a document with settings. -/
def entries (s : Settings) : Toml.Entries :=
  ("rules", .array false (s.rules.map .string)) ::
    (s.logLevel.map fun level => ("log_level", .string level.name)).toList

theorem isBare_rules : Toml.IsBare "rules" := ⟨by decide, by decide⟩

theorem isBare_level : Toml.IsBare "log_level" := ⟨by decide, by decide⟩

theorem written_levelTokens (level : Option LogLevel) : Toml.Written (levelTokens level) := by
  cases level with
  | none => trivial
  | some level =>
    have hvalue : Toml.Written ([.quoted false level.name] ++ [.newline]) :=
      ⟨by simp [Toml.Token.Fits, Toml.Token.chars], trivial, trivial⟩
    rw [levelTokens, ← List.append_nil (Toml.line _ _)]
    exact Toml.written_line isBare_level hvalue (by simp [Toml.Token.chars, Toml.isBlankChar])

theorem written_tokens (s : Settings) : Toml.Written s.tokens := by
  refine Toml.written_line isBare_rules ?_ (by simp [Toml.Token.chars, Toml.isBlankChar])
  exact ⟨trivial, Toml.written_textTokens s.rules ⟨trivial, written_levelTokens s.logLevel⟩⟩

theorem tokens_document (s : Settings) : Toml.tokens s.document = some s.tokens := by
  rw [Toml.tokens, document, String.toList_ofList]
  split
  · -- the document begins with the first letter of its first key
    next cs h => exact absurd (List.cons.inj h).1 (by decide)
  · exact Toml.tokensOfChars_of_written s.written_tokens

theorem statements?_levelTokens (level : Option LogLevel) :
    Toml.statements? (levelTokens level) =
      some (level.map fun level => Toml.Statement.entry ["log_level"] (.string level.name)).toList := by
  cases level with
  | none => rw [levelTokens, Toml.statements?]; rfl
  | some level =>
    have hline := Toml.statements?_line isBare_level [.quoted false level.name] [] rfl
      (Toml.value?_quoted Toml.maxDepth level.name _)
    rw [List.append_nil] at hline
    rw [levelTokens, hline, Toml.statements?]
    rfl

theorem statements?_tokens (s : Settings) :
    Toml.statements? s.tokens = some (s.entries.map fun e => .entry [e.1] e.2) := by
  have hrules :=
      Toml.statements?_line isBare_rules (.openBracket :: Toml.textTokens s.rules) (levelTokens s.logLevel) rfl
    (Toml.value?_array 79 s.rules _)
  rw [tokens, hrules, statements?_levelTokens, entries]
  cases s.logLevel <;> rfl

/-- A document with settings has these entries. -/
theorem entries?_document (s : Settings) : Toml.entries? s.document = some s.entries := by
  unfold Toml.entries?
  rw [s.tokens_document]
  dsimp only [Option.bind_eq_bind, Option.bind_some]
  rw [s.statements?_tokens]
  unfold entries
  cases s.logLevel <;> rfl

theorem textsOf_map_string (texts : List String) : textsOf (texts.map .string) = .ok texts := by
  induction texts with
  | nil => rfl
  | cons text texts ih => rw [List.map_cons, textsOf, ih]; rfl

theorem levelNamed_name (level : LogLevel) : levelNamed level.name = .ok level := by
  rw [levelNamed, LogLevel.ofName?_name]

theorem setBy_entries (s : Settings) : SetBy s.entries ⟨[], none⟩ s := by
  have hset : SetBy [] s s := setBy_nil_iff.mpr rfl
  obtain ⟨rules, level⟩ := s
  have hrules : (⟨[], none⟩ : Settings).add ("rules", .array false (rules.map .string)) = .ok ⟨rules, none⟩ :=
    add_eq_ok_iff.mpr (Or.inl ⟨rfl, rules, textsOf_map_string rules, rfl⟩)
  cases level with
  | none => exact (setBy_cons_iff (by simp)).mpr ⟨_, hrules, hset⟩
  | some level =>
    have hlevel : (⟨rules, none⟩ : Settings).add ("log_level", .string level.name) = .ok ⟨rules, some level⟩ :=
      add_eq_ok_iff.mpr (Or.inr ⟨rfl, level, levelNamed_name level, rfl⟩)
    exact (setBy_cons_iff (by simp)).mpr ⟨_, hrules, (setBy_cons_iff (by simp)).mpr ⟨_, hlevel, hset⟩⟩

/-- **Settings can be written and are read back**, whatever the rule files are called, unless a name is blank. -/
theorem ofToml_document {s : Settings} (h : ∀ rule ∈ s.rules, Text.isBlankText rule = false) :
    ofToml s.document = .ok s :=
  ofToml_eq_ok_iff.mpr ⟨s.entries, s.entries?_document, s.setBy_entries, h⟩

end Rebuild.Settings
