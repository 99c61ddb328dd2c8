import Rebuild.Program
import Rebuild.Proofs.Arguments
import Rebuild.Proofs.Build.Simulation
import Rebuild.Proofs.Settings.Printing

/-!
# The program as a whole

- The rule files are those of the command line, else those of the settings, else the default one (`rulePaths_eq_iff`),
  and settings written to their file are those in force (`load_write`);
- the program has four ways to end (`Ends`, `ends`): its arguments stop it, the settings cannot be used, or the build
  fails or succeeds. The exit code tells the first from the last (`code_eq_two_iff`, `code_eq_zero_iff`), and a failure
  prints to the error stream alone (`streams`);
- nothing is changed but by a real build whose request has a plan (`exists_plan_of_world_ne`), and the answer to a dry
  run does not depend on what the commands would do (`run_dry_congr`);
- what every command keeps, the program keeps (`keeps_run`);
- every request can be written on a command line and in a settings file (`run_written`).
-/

namespace Rebuild

/-! ## The settings in force -/

namespace Settings

variable {σ : Type u} [FileView σ] {w : σ} {root : String}

/-- A project has the settings of its file, or the default ones if it has no such file. -/
theorem load_eq_ok_iff {s : Settings} : load w root = .ok s ↔
    (FileView.isThere w (Path.join root fileName) = false ∧ s = ⟨[], none⟩) ∨
      (FileView.isThere w (Path.join root fileName) = true ∧
        ∃ text, FileView.readText w (Path.join root fileName) = .ok text ∧ ofToml text = .ok s) := by
  unfold load
  dsimp only
  generalize Path.join root fileName = path
  cases hthere : FileView.isThere w path with
  | false => simp [eq_comm]
  | true => cases FileView.readText w path <;> simp

/-- Settings written to the settings file are in force. -/
theorem load_write {s : Settings} (h : ∀ rule ∈ s.rules, Text.isBlankText rule = false) (files : Store)
    (root : String) :
    load (files.write (Path.join root fileName) s.document.toByteArray) root = .ok s := by
  have hget : (files.write (Path.join root fileName) s.document.toByteArray).get? (Path.join root fileName) =
      some ⟨s.document.toByteArray, files.clock + 1⟩ := by
    rw [Store.get?_write, if_pos rfl]
  refine load_eq_ok_iff.mpr (Or.inr ⟨?_, s.document, ?_, ofToml_document h⟩)
  · exact congrArg Option.isSome hget
  · exact Store.readText_eq_ok_iff.mpr (congrArg (Option.map File.content) hget)

/-- Where rule files are named, the first to count first: on the command line, in the settings, by default. -/
def ruleSources (s : Settings) (commandLine : List String) : List (List String) :=
  [commandLine, s.rules, [defaultRules]]

/-- **The rule files are those of the first source that names any.** -/
theorem rulePaths_eq_iff {s : Settings} {commandLine : List String} {root : String} {paths : List String} :
    s.rulePaths commandLine root = paths ↔
      ∃ above chosen below, s.ruleSources commandLine = above ++ chosen :: below ∧ (∀ rules ∈ above, rules = []) ∧
        chosen ≠ [] ∧ chosen.map (Path.join root) = paths := by
  have hpaths : s.rulePaths commandLine root =
      (((s.ruleSources commandLine).find? (!·.isEmpty)).getD []).map (Path.join root) := by
    unfold rulePaths ruleSources
    cases commandLine with
    | nil => cases s.rules <;> rfl
    | cons => rfl
  have hsome : ((s.ruleSources commandLine).find? (!·.isEmpty)).isSome := by
    simp [ruleSources]
  obtain ⟨chosen, hchosen⟩ := Option.isSome_iff_exists.mp hsome
  rw [hpaths, hchosen]
  obtain ⟨hne, above, below, hsplit, habove⟩ := List.find?_eq_some_iff_append.mp hchosen
  constructor
  · rintro rfl
    exact ⟨above, chosen, below, hsplit, by simpa using habove, by simpa using hne, rfl⟩
  · rintro ⟨above, chosen', below, hsplit, habove, hne, rfl⟩
    have hchosen' : (s.ruleSources commandLine).find? (!·.isEmpty) = some chosen' :=
      List.find?_eq_some_iff_append.mpr ⟨by simpa using hne, above, below, hsplit, by simpa using habove⟩
    rw [hchosen] at hchosen'
    rw [Option.some.inj hchosen']
    rfl

end Settings

namespace Program

variable {σ : Type u} [FileView σ] {runner : Runner σ} {args : List String} {w : σ}

/-! ## The ways to end -/

/-- The ways in which the program ends. -/
inductive Ends (runner : Runner σ) (args : List String) (w : σ) : Answer σ → Prop
  /-- The arguments ask for no build. -/
  | stopped {stop : Arguments.Stop} (hread : Arguments.read args = .error stop) : Ends runner args w (ofStop w stop)
  /-- The settings cannot be used. -/
  | unset {a : Arguments} {fault : Settings.Fault} (hread : Arguments.read args = .ok a)
    (hload : Settings.load w root = .error fault) : Ends runner args w ⟨1, "", errorText fault.messages "", w⟩
  /-- The build fails. -/
  | failed {a : Arguments} {settings : Settings} {failure : Failure} (hread : Arguments.read args = .ok a)
    (hload : Settings.load w root = .ok settings)
    (hbuild : (build runner root (request a settings) w).result = .error failure) :
    Ends runner args w
      ⟨1, "", errorText failure.messages failure.stderr, (build runner root (request a settings) w).world⟩
  /-- The build succeeds. -/
  | built {a : Arguments} {settings : Settings} {outcome : Outcome} (hread : Arguments.read args = .ok a)
    (hload : Settings.load w root = .ok settings)
    (hbuild : (build runner root (request a settings) w).result = .ok outcome) :
    Ends runner args w ⟨0, outcomeText a.dryRun outcome, "", (build runner root (request a settings) w).world⟩

theorem ends (runner : Runner σ) (args : List String) (w : σ) : Ends runner args w (run runner args w) := by
  unfold run
  cases hread : Arguments.read args with
  | error stop => exact .stopped hread
  | ok a =>
    dsimp only
    unfold runBuild
    cases hload : Settings.load w root with
    | error fault => exact .unset hread hload
    | ok settings =>
      dsimp only
      cases hbuild : (build runner root (request a settings) w).result with
      | error failure => exact .failed hread hload hbuild
      | ok outcome => exact .built hread hload hbuild

/-! ## Exit codes and streams -/

/-- The exit code is 2 exactly if the arguments do not fit. -/
theorem code_eq_two_iff : (run runner args w).code = 2 ↔ Arguments.read args = .error .usage := by
  have hends := ends runner args w
  generalize run runner args w = answer at hends
  cases hends with
  | @stopped stop hread => rw [hread]; cases stop <;> simp [ofStop, Arguments.Stop.exitCode]
  | unset hread | failed hread | built hread => rw [hread]; simp

/-- It is 0 exactly if help or the version was asked for, or the settings can be used and the build succeeds. -/
theorem code_eq_zero_iff : (run runner args w).code = 0 ↔
    Arguments.read args = .error .help ∨ Arguments.read args = .error .version ∨
      ∃ a settings outcome, Arguments.read args = .ok a ∧ Settings.load w root = .ok settings ∧
        (build runner root (request a settings) w).result = .ok outcome := by
  have hends := ends runner args w
  generalize run runner args w = answer at hends
  cases hends with
  | @stopped stop hread => rw [hread]; cases stop <;> simp [ofStop, Arguments.Stop.exitCode]
  | unset hread hload => rw [hread, hload]; simp
  | failed hread hload hbuild => rw [hread, hload]; simp [hbuild]
  | built hread hload hbuild => rw [hread, hload]; simp [hbuild]

theorem errorText_ne_empty (messages : List String) (commandStderr : String) :
    errorText messages commandStderr ≠ "" := by
  simp [errorText, toString]

theorem helpText_ne_empty : helpText ≠ "" := by
  decide +kernel

/-- A failure prints nothing but messages, and a success none. -/
theorem streams (runner : Runner σ) (args : List String) (w : σ) :
    let answer := run runner args w
    (answer.stderr = "" ↔ answer.code = 0) ∧ (answer.code ≠ 0 → answer.stdout = "") := by
  dsimp only
  have hends := ends runner args w
  generalize run runner args w = answer at hends
  cases hends with
  | @stopped stop hread => cases stop <;> simp [ofStop, Arguments.Stop.exitCode, helpText_ne_empty]
  | unset | failed => simp [errorText_ne_empty]
  | built => simp

/-! ## What is changed -/

/-- **Nothing is changed but by a real build whose request has a plan.** -/
theorem exists_plan_of_world_ne (h : (run runner args w).world ≠ w) :
    ∃ a settings plan, Arguments.read args = .ok a ∧ a.dryRun = false ∧ Settings.load w root = .ok settings ∧
      (request a settings).plan root w = .ok plan := by
  have hbuild {a : Arguments} {settings : Settings} (hread : Arguments.read args = .ok a)
      (hload : Settings.load w root = .ok settings) (h : (build runner root (request a settings) w).world ≠ w) :
      ∃ a settings plan, Arguments.read args = .ok a ∧ a.dryRun = false ∧ Settings.load w root = .ok settings ∧
        (request a settings).plan root w = .ok plan := by
    cases hplan : (request a settings).plan root w with
    | error failure => rw [build_of_plan_error hplan] at h; exact absurd rfl h
    | ok plan =>
      refine ⟨a, settings, plan, hread, ?_, hload, hplan⟩
      by_contra hdry
      obtain ⟨rules, hrules, -⟩ := Request.plan_eq_ok_iff.mp hplan
      rw [build, hrules] at h
      have hdry : (request a settings).dryRun = true := Bool.eq_true_of_not_eq_false hdry
      rw [hdry] at h
      exact h (buildRules_dry runner root rules _ w).2
  have hends := ends runner args w
  generalize run runner args w = answer at h hends
  cases hends with
  | @stopped stop => cases stop <;> exact absurd rfl h
  | unset => exact absurd rfl h
  | failed hread hload => exact hbuild hread hload h
  | built hread hload => exact hbuild hread hload h

/-- The answer to a dry run does not depend on what the commands would do. -/
theorem run_dry_congr (h : ∀ a, Arguments.read args = .ok a → a.dryRun = true) (runner' : Runner σ) :
    run runner args w = run runner' args w := by
  unfold run
  cases hread : Arguments.read args with
  | error stop => rfl
  | ok a =>
    have hbuild (settings : Settings) :
        build runner root (request a settings) w = build runner' root (request a settings) w := by
      have hdry : (request a settings).dryRun = true := h a hread
      unfold build
      rw [hdry]
      cases RuleSet.load w (request a settings).rules with
      | error failure => rfl
      | ok rules => exact buildRules_dry_congr runner runner' root rules _ w
    unfold runBuild
    simp only [hbuild]

/-- What every command keeps, the program keeps. -/
theorem keeps_run {P : σ → Prop} (hk : ∀ i w, P w → P (runner i w).2) (h : P w) : P (run runner args w).world := by
  have hbuild (request : Request) : P (build runner root request w).world := by
    cases hplan : request.plan root w with
    | error failure => rw [build_of_plan_error hplan]; exact h
    | ok plan =>
      obtain ⟨rules, hrules, hplan⟩ := Request.plan_eq_ok_iff.mp hplan
      rw [build, hrules]
      dsimp only
      rw [buildRules_of_plan hplan]
      exact Build.keeps_runSteps hk h
  have hends := ends runner args w
  generalize run runner args w = answer at hends
  cases hends with
  | @stopped stop => cases stop <;> exact h
  | unset => exact h
  | failed => exact hbuild _
  | built => exact hbuild _

/-! ## Written requests -/

/-- **Every request can be written**: what stands on the command line and in the settings file is what is built,
whatever the rule files and the target are called. -/
theorem run_written {runner : Runner Store} (a : Arguments) {s : Settings}
    (h : ∀ rule ∈ s.rules, Text.isBlankText rule = false) (files : Store) :
    let w := files.write (Path.join root Settings.fileName) s.document.toByteArray
    let answer := run runner (Arguments.commandLine [] none a) w
    let built := build runner root (request a s) w
    answer.world = built.world ∧ (answer.code = 0 ↔ ∃ outcome, built.result = .ok outcome) ∧
      ∀ outcome, built.result = .ok outcome → answer.stdout = outcomeText a.dryRun outcome := by
  intro w answer built
  have hread : Arguments.read (Arguments.commandLine [] none a) = .ok a := Arguments.read_words a
  have hload : Settings.load w root = .ok s := Settings.load_write h files root
  have hends : Ends runner (Arguments.commandLine [] none a) w answer := ends runner _ w
  clear_value answer
  -- The arguments and the settings that are read are the ones that were written.
  cases hends with
  | stopped hread' => rw [hread] at hread'; cases hread'
  | unset _ hload' => rw [hload] at hload'; cases hload'
  | failed hread' hload' hbuild =>
    cases hread.symm.trans hread'
    cases hload.symm.trans hload'
    have hresult : built.result = _ := hbuild
    simp [hresult, built]
  | built hread' hload' hbuild =>
    cases hread.symm.trans hread'
    cases hload.symm.trans hload'
    have hresult : built.result = _ := hbuild
    simp [hresult, built]

end Program

end Rebuild
