import Rebuild.Machine
import Rebuild.Proofs.Build.Snapshot
import Rebuild.Proofs.Disk.File
import Rebuild.Proofs.Program
import Rebuild.Proofs.Tool.Options

/-!
# Builds on a disk

- A program is found by following files that name another to run them, at most so many of them (`Machine.Resolves`,
  `Machine.resolve_eq_ok_iff`); the arguments come last (`Machine.Resolves.suffix`);
- a command that leads to a program of the system does what that program does (`Machine.launch_of_does`,
  `Disk.start_of_does`);
- a command that does not start leaves the disk as it is (`Disk.run_of_not_started`), and every command leaves the
  working directory and the mask (`Disk.run_keeps`); so does the program (`Disk.keeps_program`);
- a build sees of a path whether it leads to a node, and of when that is (`Disk.modified_eq_some_iff`,
  `Disk.isThere_iff`). So a disk is legible where no path of a name fails but for what is not there
  (`Disk.legible_iff`), and there a dry run foresees the real build (`Disk.dry_run_foresees_on_disk`), and what is
  rebuilt is what has something stale below it (`Disk.mem_built_iff_on_disk`).
-/

namespace Rebuild

/-! ## Finding programs -/

namespace Machine

/-- A program of the system runs what is at a path, with these words, through at most so many files that name
another. -/
inductive Resolves (d : Disk) : Nat → String → List String → String → List String → Prop
  | program {limit : Nat} {path : String} {words : List String} {node : DiskNode} {name : String}
    (hnode : d.get path = .ok node) (hrun : Process.isRunnable node = true) (hitem : node.item = .program name) :
    Resolves d limit path words name words
  | script {limit : Nat} {path : String} {words : List String} {node : DiskNode} {content : ByteArray}
      {program : String}
    {argument : Option String} {name : String} {words' : List String} (hnode : d.get path = .ok node)
    (hrun : Process.isRunnable node = true) (hitem : node.item = .file content)
    (hfirst : interpreter? content = some (program, argument))
    (hrest : Resolves d limit program (program :: argument.toList ++ path :: words.drop 1) name words') :
    Resolves d (limit + 1) path words name words'

variable {d : Disk} {limit : Nat} {path name : String} {words words' : List String}

theorem resolves_of_resolve (h : resolve d limit path words = .ok (name, words')) :
    Resolves d limit path words name words' := by
  fun_induction resolve d limit path words with
  | case3 limit path words node hnode hrun name hitem =>
    cases h
    exact .program hnode (by simpa using hrun) hitem
  | case4 path words node hnode hrun content hitem limit program argument hfirst ih =>
    exact .script hnode (by simpa using hrun) hitem hfirst (ih h)
  | _ => cases h

theorem resolve_eq_ok_iff :
    resolve d limit path words = .ok (name, words') ↔ Resolves d limit path words name words' := by
  refine ⟨resolves_of_resolve, fun h => ?_⟩
  induction h with
  | program hnode hrun hitem =>
    unfold resolve
    simp [hnode, hrun, hitem]
  | script hnode hrun hitem hfirst hrest ih =>
    unfold resolve
    simp only [hnode, hrun, hitem, hfirst]
    exact ih

/-- The arguments of a command are the last words for the program that runs it. -/
theorem Resolves.suffix (h : Resolves d limit path words name words') : words.drop 1 <:+ words' := by
  induction h with
  | program => exact List.drop_suffix _ _
  | script hnode hrun hitem hfirst hrest ih =>
    refine List.IsSuffix.trans ?_ ih
    rw [List.cons_append, List.drop_succ_cons, List.drop_zero]
    exact (List.suffix_cons _ _).trans (List.suffix_append _ _)

end Machine

/-! ## Running programs -/

section

variable {p p' : Process} {name : String} {tool : Tool} {code : Nat}

/-- A program of the system that goes well ends with its exit code. -/
theorem Tool.run_of_does {words : List String} (h : Tool.Does (tool (words.headD "") (words.drop 1)) p code p')
    (hstarved : p'.starved = []) : Tool.run name tool words p = (.exited code, p') := by
  have hrun : ((tool (words.headD "") (words.drop 1)).run : ProcessM _) p = (.ok code, p') := h
  unfold Tool.run
  simp only [bind, StateT.bind, hrun, get, getThe, MonadStateOf.get, StateT.get, pure, hstarved, List.isEmpty_nil,
    Bool.not_true, Bool.false_and, Bool.false_eq_true, if_false]
  rfl

/-- Where a path leads to a program of the system that goes well, what the process is after it. -/
theorem Machine.launch_of_does {path : String} {words words' : List String}
    (hresolves : Resolves p.disk maxInterpreters path words name words') (hshell : shellNames.contains name = false)
    (htool : ∀ launch, (Tool.tools launch).lookup name = some tool)
    (h : Tool.Does (tool (words'.headD "") (words'.drop 1)) { p with starved := [] } code p')
    (hstarved : p'.starved = []) : usual.launch path words p = (.ok (.exited code), p.after p') := by
  show start (ofDepth 11999) path words p = _
  unfold start
  simp only [bind, StateT.bind, get, getThe, MonadStateOf.get, StateT.get, pure]
  rw [resolve_eq_ok_iff.mpr hresolves]
  dsimp only
  rw [hshell, htool]
  unfold Process.inside
  simp only [Bool.false_eq_true, if_false, StateT.bind, Tool.run_of_does h hstarved]
  rfl

end

namespace Disk

/-- On a disk a command leads to a program of the system, which is given its words. -/
structure LeadsTo (environment : List (String × String)) (program : String) (args : List String) (name : String)
    (d : Disk) : Prop where
  hasNul : (Text.spelled program :: args.map Text.spelled).any hasNul = false
  resolves : ∃ path, (d.startOf environment).programPath (Text.spelled program) = .ok path ∧
    Machine.Resolves d Machine.maxInterpreters path (Text.spelled program :: args.map Text.spelled) name
      (Text.spelled program :: args.map Text.spelled)

/-- **A command that leads to a program of the system that goes well ends with its exit code**, and leaves its disk. -/
theorem start_of_does {environment : List (String × String)} {d : Disk} {program : String} {args : List String}
    {name : String} {tool : Tool} {code : Nat} {p : Process} (h : LeadsTo environment program args name d)
    (hshell : Machine.shellNames.contains name = false) (htool : ∀ launch, (Tool.tools launch).lookup name = some tool)
    (hdoes : Tool.Does (tool (Text.spelled program) (args.map Text.spelled)) (d.startOf environment) code p)
    (hstarved : p.starved = []) :
    d.start environment program args =
      .ok (⟨.exited code, writtenTo p 0, writtenTo p 1⟩, { p.disk with cwd := d.cwd, mask := d.mask }) := by
  obtain ⟨path, hpath, hresolves⟩ := h.resolves
  unfold start
  dsimp only
  rw [h.hasNul, if_neg Bool.false_ne_true, hpath]
  dsimp only
  rw [Machine.launch_of_does (p := d.startOf environment) hresolves hshell htool hdoes hstarved]
  rfl

variable {environment : List (String × String)} {i : Invocation} {d : Disk}

/-! ## What a command leaves -/

/-- The ways in which a command can go: it does not start, which leaves the disk as it is, or it starts in its directory
and leaves the place and the mask of what comes after it. -/
inductive RunCase (environment : List (String × String)) (i : Invocation) (d : Disk) :
    Except StartFault Output × Disk → Prop
  | notStarted (cause : String) : RunCase environment i d (.error (.spawning i.program i.target cause), d)
  | started {cwd : Place} {output : Output} {after : Disk} (hcwd : d.find i.cwd = .ok cwd)
    (hstart : ({ d with cwd } : Disk).start environment i.program i.args = .ok (output, after)) :
    RunCase environment i d (.ok output, { after with cwd := d.cwd, mask := d.mask })

theorem runCase (environment : List (String × String)) (i : Invocation) (d : Disk) :
    RunCase environment i d (run environment i d) := by
  unfold run
  dsimp only
  cases hcwd : d.find i.cwd with
  | error fault => exact .notStarted _
  | ok cwd =>
    dsimp only
    cases hstart : ({ d with cwd } : Disk).start environment i.program i.args with
    | error cause => exact .notStarted _
    | ok started => exact .started hcwd hstart

/-- A command that does not start leaves the disk as it is. -/
theorem run_of_not_started {fault : StartFault} (h : (run environment i d).1 = .error fault) :
    (run environment i d).2 = d := by
  have hcase := runCase environment i d
  generalize run environment i d = ended at h hcase
  cases hcase with
  | notStarted => rfl
  | started => cases h

/-- A command leaves the working directory and the mask. -/
theorem run_keeps (environment : List (String × String)) (i : Invocation) (d : Disk) :
    (run environment i d).2.cwd = d.cwd ∧ (run environment i d).2.mask = d.mask := by
  have hcase := runCase environment i d
  generalize run environment i d = ended at hcase
  cases hcase <;> exact ⟨rfl, rfl⟩

/-- The program leaves the working directory and the mask. -/
theorem keeps_program (environment : List (String × String)) (args : List String) (d : Disk) :
    let after := (Program.run (run environment) args d).world
    after.cwd = d.cwd ∧ after.mask = d.mask :=
  Program.keeps_run (P := fun e => e.cwd = d.cwd ∧ e.mask = d.mask)
    (fun i e he => ⟨(run_keeps environment i e).1.trans he.1, (run_keeps environment i e).2.trans he.2⟩) ⟨rfl, rfl⟩

/-! ## What a build sees -/

/-- A path has a time where it leads to a node. -/
theorem modified_eq_some_iff {path : String} {time : Time} : FileView.modified d path = .ok (some time) ↔
    ∃ node, d.get (Text.spelled path) = .ok node ∧ node.modified = time := by
  show modified d path = .ok (some time) ↔ _
  unfold modified
  cases d.get (Text.spelled path) with
  | ok node => simp
  | error fault => cases fault <;> simp

/-- Something is at a path where the path has a time. -/
theorem isThere_iff {path : String} :
    FileView.isThere d path = true ↔ ∃ time, FileView.modified d path = .ok (some time) := by
  simp only [modified_eq_some_iff]
  show (d.get (Text.spelled path)).toOption.isSome = true ↔ _
  cases d.get (Text.spelled path) <;> simp [Except.toOption]

/-- A disk is legible where no path of a name fails, but for what is not there. -/
theorem legible_iff {root : String} {names : List Name} : Legible root d names ↔
    ∀ name ∈ names, ∀ fault, FileView.modified d (Path.join root name) ≠ .error fault := by
  refine forall₂_congr fun name _ => ?_
  cases hm : FileView.modified d (Path.join root name) with
  | error fault => simp
  | ok time? =>
    refine iff_of_true ⟨time?, rfl, ?_⟩ nofun
    rw [Bool.eq_iff_iff, isThere_iff, hm]
    cases time? <;> simp

section

variable {root : String} {rules : RuleSet} {target : Option Name} {outcome : Outcome} (hd : rules.Distinct root)
  (htarget : ∀ name, target = some name → name ∈ rules.names) (hlegible : Legible root d rules.names)
  (hkeeps : ∀ call ∈ buildCalls (run environment) root rules target d,
    (run environment).KeepsNames root rules.names call.1 call.2)
  (h : (buildRules (run environment) root rules target false d).result = .ok outcome)
include hd htarget hlegible hkeeps h

/-- **On a disk a dry run foresees the real build.** -/
theorem dry_run_foresees_on_disk : (buildRules (run environment) root rules target true d).result =
    .ok { outcome with report := ⟨outcome.report.results.map StepResult.foreseen⟩ } :=
  buildRules_dry_of_ok_anywhere hd htarget hlegible hkeeps h

/-- **On a disk a real build builds what has something stale below it.** -/
theorem mem_built_iff_on_disk {name : Name} : name ∈ outcome.report.built ↔
    (∃ t ∈ outcome.plan.steps, t.name = name) ∧ rules.StaleBelow root (Store.ofView root d rules.names) name :=
  mem_built_iff_anywhere hd htarget hlegible hkeeps h

end

end Disk

end Rebuild
