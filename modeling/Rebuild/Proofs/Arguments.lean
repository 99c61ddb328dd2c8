import Rebuild.Arguments
import Rebuild.Proofs.Except
import Rebuild.Proofs.LogLevel

/-!
# What a command line asks for

- A command line that asks for something names the command, and each rule file and the target stand on it
  (`Reading.From`, `read_from`);
- options with their values attached are taken as they are written, before the command (`readProgram_options`) and after
  it (`readBuild_options`);
- so a command line with options on both sides of the command asks for the rule files and the level after it, and for
  those before it where there are none (`read_commandLine`), and all that can be asked for can be written
  (`read_words`).
-/

namespace Rebuild.Arguments

variable {s t : Reading} {level : Level}

/-! ## What is asked for stands on the command line -/

/-- A text is an argument, or the end of one. -/
def IsGiven (args : List String) (text : String) : Prop :=
  ∃ arg ∈ args, text.toList <:+ arg.toList

theorem isGiven_of_mem {args : List String} {text : String} (h : text ∈ args) : IsGiven args text :=
  ⟨text, h, List.suffix_rfl⟩

/-- What was read at one level is given by arguments. -/
structure Reading.From (args : List String) (s : Reading) : Prop where
  rules : ∀ rule ∈ s.rules, IsGiven args rule
  target : ∀ name ∈ s.target, name ∈ args
  pending : ∀ option value, s.pending = some (option, some value) → value ∈ args

namespace Reading.From

variable {args : List String}

theorem empty : Reading.empty.From args := ⟨by simp [Reading.empty], by simp [Reading.empty], by simp [Reading.empty]⟩

theorem give (h : s.From args) {option : Valued} {value : String} (hvalue : IsGiven args value)
    (ht : s.give option value = .ok t) : t.From args := by
  unfold Reading.give at ht
  split at ht
  · cases ht
    refine { h with rules := fun rule hr => ?_ }
    rcases List.mem_append.mp hr with hr | hr
    · exact h.rules rule hr
    · rwa [List.mem_singleton.mp hr]
  · split at ht
    · cases ht
      exact ⟨h.rules, h.target, h.pending⟩
    · cases ht

theorem settle (h : s.From args) (ht : s.settle = .ok t) : t.From args := by
  unfold Reading.settle at ht
  split at ht
  · cases ht; exact h
  · cases ht
  · next option value hpending =>
    have hnone : ({ s with pending := none } : Reading).From args := ⟨h.rules, h.target, by simp⟩
    exact hnone.give (isGiven_of_mem (h.pending option value hpending)) ht

theorem take (h : s.From args) {meaning : Meaning} {attached : Option String}
    (hattached : ∀ value ∈ attached, IsGiven args value) (ht : s.take meaning attached = .ok t) : t.From args := by
  unfold Reading.take at ht
  obtain ⟨settled, hsettled, ht⟩ := Except.bind_eq_ok_iff.mp ht
  have hfrom := h.settle hsettled
  split at ht
  · exact hfrom.give (hattached _ rfl) ht
  · cases ht
    exact ⟨hfrom.rules, hfrom.target, by simp⟩
  · split at ht
    · cases ht
    · cases ht
      exact ⟨hfrom.rules, hfrom.target, hfrom.pending⟩
  · cases ht
  · cases ht

theorem takeTarget (h : s.From args) {name : String} (hname : name ∈ args) (ht : s.takeTarget name = .ok t) :
    t.From args := by
  unfold Reading.takeTarget at ht
  obtain ⟨settled, hsettled, ht⟩ := Except.bind_eq_ok_iff.mp ht
  have hfrom := h.settle hsettled
  split at ht
  · cases ht
    exact ⟨hfrom.rules, by simpa using hname, hfrom.pending⟩
  · cases ht

theorem takeLong (h : s.From args) {name : List Char} {value : Option String}
    (hvalue : ∀ v ∈ value, IsGiven args v) (ht : takeLong level s name value = .ok t) : t.From args := by
  unfold Arguments.takeLong at ht
  split at ht
  · cases ht
  · exact h.take hvalue ht
  · cases ht
  · exact h.take (by simp) ht

theorem takeShort (h : s.From args) {arg : String} (harg : arg ∈ args) {letters : List Char}
    (hletters : letters <:+ arg.toList) (ht : takeShort level s letters = .ok t) : t.From args := by
  induction letters generalizing s with
  | nil => cases ht; exact h
  | cons c cs ih =>
    have hcs : cs <:+ arg.toList := (List.suffix_cons c cs).trans hletters
    unfold Arguments.takeShort at ht
    split at ht
    · cases ht
    · split at ht
      · exact h.take (by simp) ht
      · next value =>
        refine h.take (fun v hv => ⟨arg, harg, ?_⟩) ht
        rw [← Option.some.inj hv, String.toList_ofList]
        exact (List.suffix_cons _ value).trans hcs
      · refine h.take (fun v hv => ⟨arg, harg, ?_⟩) ht
        rw [← Option.some.inj hv, String.toList_ofList]
        exact hcs
    · obtain ⟨next, hnext, ht⟩ := Except.bind_eq_ok_iff.mp ht
      exact ih (h.take (by simp) hnext) hcs ht

end Reading.From

/-- What is attached to a long option is the end of the argument. -/
theorem suffix_of_form_long {arg : String} {name : List Char} {value? : Option String}
    (h : form arg = .long name value?) : ∀ value ∈ value?, value.toList <:+ arg.toList := by
  unfold form at h
  split at h
  · cases h
  · next cs _ hcs =>
    split at h
    · cases h; simp
    · next c value hdrop =>
      cases h
      rintro _ ⟨⟩
      rw [String.toList_ofList, hcs]
      have hvalue : value <:+ cs := (List.suffix_cons c value).trans (hdrop ▸ List.dropWhile_suffix _)
      exact hvalue.trans ((List.suffix_cons _ _).trans (List.suffix_cons _ _))
  · cases h
  · cases h

/-- Letters after a dash are the end of the argument. -/
theorem suffix_of_form_short {arg : String} {letters : List Char} (h : form arg = .short letters) :
    letters <:+ arg.toList := by
  unfold form at h
  split at h
  · cases h
  · split at h <;> cases h
  · next c cs _ _ hcs =>
    cases h
    rw [hcs]
    exact List.suffix_cons _ _
  · cases h

section

variable {args : List String} {arg : String}

theorem Reading.From.long (h : s.From args) (harg : arg ∈ args) {name : List Char} {value : Option String}
    (hform : form arg = .long name value) (ht : Arguments.takeLong level s name value = .ok t) : t.From args :=
  h.takeLong (fun v hv => ⟨arg, harg, suffix_of_form_long hform v hv⟩) ht

/-- The value of an option may be an argument of its own. -/
theorem Reading.From.value (h : s.From args) (harg : arg ∈ args) (option : Valued) :
    ({ s with pending := some (option, some arg) } : Reading).From args where
  rules := h.rules
  target := h.target
  pending := by
    rintro _ _ ⟨⟩
    exact harg

end

/-- What is read after the command is given by arguments. -/
theorem readBuild_from {args rest : List String} {ended : Bool} (h : s.From args) (hrest : rest ⊆ args)
    (ht : readBuild s ended rest = .ok t) : t.From args := by
  induction rest generalizing s ended with
  | nil => exact h.settle ht
  | cons arg rest ih =>
    obtain ⟨harg, hrest⟩ := List.cons_subset.mp hrest
    unfold readBuild at ht
    split at ht
    · obtain ⟨next, hnext, ht⟩ := Except.bind_eq_ok_iff.mp ht
      exact ih (h.takeTarget harg hnext) hrest ht
    · split at ht
      · exact ih h hrest ht
      · next hform =>
        obtain ⟨next, hnext, ht⟩ := Except.bind_eq_ok_iff.mp ht
        exact ih (h.long harg hform hnext) hrest ht
      · next hform =>
        obtain ⟨next, hnext, ht⟩ := Except.bind_eq_ok_iff.mp ht
        exact ih (h.takeShort harg (suffix_of_form_short hform) hnext) hrest ht
      · split at ht
        · exact ih (h.value harg _) hrest ht
        · obtain ⟨next, hnext, ht⟩ := Except.bind_eq_ok_iff.mp ht
          exact ih (h.takeTarget harg hnext) hrest ht

/-- What is asked for is given by arguments, one of which is the command. -/
theorem readProgram_from {args rest : List String} (h : s.From args) (hrest : rest ⊆ args) {a : Arguments}
    (ha : readProgram s rest = .ok a) :
    "build" ∈ args ∧ (∀ rule ∈ a.rules, IsGiven args rule) ∧ ∀ name ∈ a.target, name ∈ args := by
  induction rest generalizing s with
  | nil => cases ha
  | cons arg rest ih =>
    obtain ⟨harg, hrest⟩ := List.cons_subset.mp hrest
    unfold readProgram at ha
    split at ha
    · cases ha
    · next hform =>
      obtain ⟨next, hnext, ha⟩ := Except.bind_eq_ok_iff.mp ha
      exact ih (h.long harg hform hnext) hrest ha
    · next hform =>
      obtain ⟨next, hnext, ha⟩ := Except.bind_eq_ok_iff.mp ha
      exact ih (h.takeShort harg (suffix_of_form_short hform) hnext) hrest ha
    · split at ha
      · exact ih (h.value harg _) hrest ha
      · split at ha
        · next hbuild =>
          obtain ⟨b, hb, ha⟩ := Except.bind_eq_ok_iff.mp ha
          obtain ⟨before, hbefore, ha⟩ := Except.bind_eq_ok_iff.mp ha
          have hafter := readBuild_from (Reading.From.empty : Reading.From args _) hrest hb
          cases ha
          refine ⟨eq_of_beq hbuild ▸ harg, ?_, hafter.target⟩
          dsimp only
          split
          · exact (h.settle hbefore).rules
          · exact hafter.rules
        · split at ha <;> cases ha

/-- **What is asked for stands on the command line**: the command, the target, and each rule file, which may be the end
of an argument. -/
theorem read_from {args : List String} {a : Arguments} (h : read args = .ok a) :
    "build" ∈ args ∧ (∀ rule ∈ a.rules, IsGiven args rule) ∧ ∀ name ∈ a.target, name ∈ args :=
  readProgram_from .empty (List.Subset.refl args) h

/-! ## Options with their values attached -/

theorem form_rules (rule : String) : form ("--rules=" ++ rule) = .long "rules".toList (some rule) := by
  simp [form, String.toList_append]

theorem form_level (level : LogLevel) :
    form ("--log-level=" ++ level.name) = .long "log-level".toList (some level.name) := by
  simp [form, String.toList_append]

theorem takeLong_rules (hs : s.pending = none) (rule : String) :
    takeLong level s "rules".toList (some rule) = .ok { s with rules := s.rules ++ [rule] } := by
  simp [takeLong, longMeaning?, Reading.take, Reading.settle, hs, Reading.give, bind, Except.bind]

theorem takeLong_level (hs : s.pending = none) (hnone : s.logLevel = none) (l : LogLevel) :
    takeLong level s "log-level".toList (some l.name) = .ok { s with logLevel := some l } := by
  simp [takeLong, longMeaning?, Reading.take, Reading.settle, hs, Reading.give, hnone, bind, Except.bind]

/-- Rule files and a level as options. -/
def optionWords (rules : List String) (level : Option LogLevel) : List String :=
  rules.map ("--rules=" ++ ·) ++ (level.map fun level => "--log-level=" ++ level.name).toList

/-- What reads arguments at a level and takes long options there takes these options. -/
theorem takes_optionWords {α : Type} {r : Reading → List String → Except Stop α}
    (hr : ∀ {s : Reading} {arg : String} {name : List Char} {value : Option String} (args : List String),
      form arg = .long name value → r s (arg :: args) = takeLong level s name value >>= (r · args))
    (hs : s.pending = none) (hnone : s.logLevel = none) (rules : List String) (l : Option LogLevel)
    (args : List String) :
    r s (optionWords rules l ++ args) = r { s with rules := s.rules ++ rules, logLevel := l } args := by
  induction rules generalizing s with
  | nil =>
    rw [List.append_nil]
    cases l with
    | none =>
      obtain ⟨_, _, _, _, _⟩ := s
      cases hnone
      rfl
    | some l =>
      change r s (("--log-level=" ++ l.name) :: args) = _
      rw [hr args (form_level l), takeLong_level hs hnone]
      rfl
  | cons rule rules ih =>
    change r s (("--rules=" ++ rule) :: (optionWords rules l ++ args)) = _
    rw [hr _ (form_rules rule), takeLong_rules hs]
    have hrules := ih (s := { s with rules := s.rules ++ [rule] }) hs hnone
    rwa [List.append_assoc, List.singleton_append] at hrules

/-- Options after the command are taken as they are written. -/
theorem readBuild_options (rules : List String) (l : Option LogLevel) (args : List String) :
    readBuild .empty false (optionWords rules l ++ args) = readBuild ⟨rules, l, none, false, none⟩ false args :=
  takes_optionWords (r := (readBuild · false)) (fun args h => by rw [readBuild, if_neg (by decide), h]) rfl rfl
    rules l args

/-- Options before the command are taken as they are written. -/
theorem readProgram_options (rules : List String) (l : Option LogLevel) (args : List String) :
    readProgram .empty (optionWords rules l ++ args) = readProgram ⟨rules, l, none, false, none⟩ args :=
  takes_optionWords (fun args h => by rw [readProgram, h]) rfl rfl rules l args

/-! ## Command lines -/

/-- What follows the options: whether it is a dry run, and the target, which no two dashes can hide. -/
def targetWords (dryRun : Bool) (target : Option String) : List String :=
  (if dryRun then ["--dry-run"] else []) ++ (target.map fun name => ["--", name]).getD []

theorem readBuild_targetWords (rules : List String) (l : Option LogLevel) (dryRun : Bool) (target : Option String) :
    readBuild ⟨rules, l, none, false, none⟩ false (targetWords dryRun target) =
      .ok ⟨rules, l, target, dryRun, none⟩ := by
  cases dryRun <;> cases target <;> rfl

/-- A command line with options on both sides of the command. -/
def commandLine (rules : List String) (level : Option LogLevel) (a : Arguments) : List String :=
  optionWords rules level ++ "build" :: (optionWords a.rules a.logLevel ++ targetWords a.dryRun a.target)

/-- **The options after the command count before those in front of it**: the rule files there where there are any, and
the level there where there is one. -/
theorem read_commandLine (rules : List String) (level : Option LogLevel) (a : Arguments) :
    read (commandLine rules level a) =
      .ok { a with rules := if a.rules.isEmpty then rules else a.rules, logLevel := a.logLevel <|> level } := by
  have hbuild : readBuild .empty false (optionWords a.rules a.logLevel ++ targetWords a.dryRun a.target) =
      .ok ⟨a.rules, a.logLevel, a.target, a.dryRun, none⟩ := by
    rw [readBuild_options, readBuild_targetWords]
  have hform : form "build" = .plain := rfl
  rw [read, commandLine, readProgram_options, readProgram, hform]
  dsimp only [Reading.awaiting?]
  rw [if_pos (beq_self_eq_true "build"), hbuild]
  rfl

/-- **All that can be asked for can be written**, with any names of rule files and any name of a target. -/
theorem read_words (a : Arguments) : read (commandLine [] none a) = .ok a := by
  obtain ⟨rules, level, target, dryRun⟩ := a
  rw [read_commandLine]
  cases rules <;> cases level <;> rfl

end Rebuild.Arguments
