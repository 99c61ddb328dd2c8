import Rebuild.Proofs.Build.RebuildSet
import Rebuild.Proofs.Build.Simulation

/-!
# Worlds as stores

A build asks of the names of its rules no more than whether they are there and of when they are. Where a world can tell
this of all of them (`Legible`), the store of empty files with these times shows the same (`Store.ofView`). Different
names of the rules being different files, a build in the world is then one on this store, where each command runs in
the world and what it has left is looked at anew (`Runner.onSnapshot`, `buildRules_matches_snapshot`).

So what holds on stores holds in every world whose commands keep it legible and change no other name of the rules than
their target: a dry run foresees the real build (`buildRules_dry_of_ok_anywhere`), and what is rebuilt is what has
something stale below it at the start (`mem_built_iff_anywhere`).
-/

namespace Rebuild

variable {σ : Type u} [FileView σ]

/-! ## What a world shows of names -/

/-- A world tells of each of these names whether it is there and of when it is. -/
def Legible (root : String) (w : σ) (names : List Name) : Prop :=
  ∀ name ∈ names, ∃ time?, FileView.modified w (Path.join root name) = .ok time? ∧
    FileView.isThere w (Path.join root name) = time?.isSome

/-- A store of empty files with the times that a world shows of these names. -/
def Store.ofView (root : String) (w : σ) : List Name → Store
  | [] => .empty
  | name :: names =>
    match FileView.modified w (Path.join root name) with
    | .ok (some time) => ((ofView root w names).write (Path.join root name) .empty).stamp (Path.join root name) time
    | _ => ofView root w names

namespace Store

variable {root : String} {w : σ} {names : List Name} {name : Name}

/-- It has no files but those of the names. -/
theorem get?_ofView_of_ne {path : String} (h : ∀ name ∈ names, Path.normal (Path.join root name) ≠ Path.normal path) :
    (ofView root w names).get? path = none := by
  induction names with
  | nil => exact get?_empty path
  | cons name names ih =>
    obtain ⟨hname, hnames⟩ := List.forall_mem_cons.mp h
    unfold ofView
    split
    · rw [get?_stamp, if_neg hname, get?_write, if_neg hname, ih hnames]
    · exact ih hnames

/-- Where different names are different files, it has for each of them what the world shows. -/
theorem get?_ofView
    (hd : ∀ a ∈ names, ∀ b ∈ names, Path.normal (Path.join root a) = Path.normal (Path.join root b) → a = b)
    (hname : name ∈ names) {time? : Option Time} (hm : FileView.modified w (Path.join root name) = .ok time?) :
    (ofView root w names).get? (Path.join root name) = time?.map (⟨.empty, ·⟩) := by
  induction names with
  | nil => cases hname
  | cons b names ih =>
    have hrest := fun a ha b hb => hd a (List.mem_cons_of_mem _ ha) b (List.mem_cons_of_mem _ hb)
    by_cases he : name = b
    · subst he
      unfold ofView
      rw [hm]
      cases time? with
      | some time => dsimp only; rw [get?_stamp, if_pos rfl, get?_write, if_pos rfl]; rfl
      | none =>
        dsimp only
        by_cases hmem : name ∈ names
        · exact ih hrest hmem
        · refine get?_ofView_of_ne fun a ha heq => hmem ?_
          rwa [← hd a (List.mem_cons_of_mem _ ha) name List.mem_cons_self heq]
    · have hmem := (List.mem_cons.mp hname).resolve_left he
      have hne : Path.normal (Path.join root b) ≠ Path.normal (Path.join root name) := fun heq =>
        he (hd b List.mem_cons_self name hname heq).symm
      unfold ofView
      split
      · rw [get?_stamp, if_neg hne, get?_write, if_neg hne, ih hrest hmem]
      · exact ih hrest hmem

end Store

/-! ## Builds on snapshots -/

/-- A store and the world that it shows. -/
def IsSnapshot (root : String) (names : List Name) (w : σ) (v : Store × σ) : Prop :=
  v = (Store.ofView root w names, w) ∧ Legible root w names

/-- Commands that run in a world, with a store that shows what they leave. -/
def Runner.onSnapshot (runner : Runner σ) (root : String) (names : List Name) : Runner (Store × σ) := fun i v =>
  let after := runner i v.2
  (after.1, Store.ofView root after.2 names, after.2)

/-- A command keeps a world legible, and changes no other of these names than its target. -/
structure Runner.KeepsNames (runner : Runner σ) (root : String) (names : List Name) (i : Invocation)
    (w : σ) : Prop where
  legible : Legible root (runner i w).2 names
  others : ∀ name ∈ names, name ≠ i.target →
    FileView.modified (runner i w).2 (Path.join root name) = FileView.modified w (Path.join root name)

section

variable {runner : Runner σ} {root : String} {rules : RuleSet} {target : Option Name} {dryRun : Bool} {w : σ}
  (hd : rules.Distinct root)
include hd

theorem IsSnapshot.showsSame {v : Store × σ} (h : IsSnapshot root rules.names w v) {name : Name}
    (hname : name ∈ rules.names) : ShowsSame root w v name := by
  obtain ⟨rfl, hlegible⟩ := h
  obtain ⟨time?, hmodified, hthere⟩ := hlegible name hname
  have hget : (Store.ofView root w rules.names).get? (Path.join root name) = time?.map (⟨.empty, ·⟩) :=
    Store.get?_ofView hd hname hmodified
  constructor
  · rw [hthere]
    show _ = ((Store.ofView root w rules.names).get? (Path.join root name)).isSome
    rw [hget, Option.isSome_map]
  · rw [hmodified]
    show _ = Except.ok (((Store.ofView root w rules.names).get? (Path.join root name)).map File.modified)
    rw [hget, Option.map_map]
    simp [Function.comp_def]

/-- On the snapshot a command keeps all files but that of its target, if it changes no other name in the world. -/
theorem Runner.KeepsNames.onSnapshot {i : Invocation} (h : runner.KeepsNames root rules.names i w) (hcwd : i.cwd = root)
    (hlegible : Legible root w rules.names) :
    (runner.onSnapshot root rules.names).KeepsOthers i (Store.ofView root w rules.names, w) := by
  intro path hpath
  show (Store.ofView root (runner i w).2 rules.names).get? path = (Store.ofView root w rules.names).get? path
  by_cases hmem : ∃ name ∈ rules.names, Path.normal (Path.join root name) = Path.normal path
  · obtain ⟨name, hname, hnormal⟩ := hmem
    have hget (s : Store) : s.get? path = s.get? (Path.join root name) := by
      unfold Store.get?
      rw [hnormal]
    have hne : name ≠ i.target := by
      rintro rfl
      exact hpath (by rw [hcwd, hnormal])
    obtain ⟨time?, hmodified, _⟩ := hlegible name hname
    rw [hget, hget, Store.get?_ofView hd hname hmodified,
      Store.get?_ofView hd hname ((h.others name hname hne).trans hmodified)]
  · have hnone : ∀ name ∈ rules.names, Path.normal (Path.join root name) ≠ Path.normal path :=
      fun name hname heq => hmem ⟨name, hname, heq⟩
    rw [Store.get?_ofView_of_ne hnone, Store.get?_ofView_of_ne hnone]

variable (htarget : ∀ name, target = some name → name ∈ rules.names) (hlegible : Legible root w rules.names)
include htarget hlegible

/-- **A build in a legible world is a build on its snapshot**: the same result, the same commands, and a snapshot again
after it. -/
theorem buildRules_matches_snapshot
    (hkeeps : dryRun = false → ∀ call ∈ buildCalls runner root rules target w,
      Legible root (runner call.1 call.2).2 rules.names) :
    (buildRules runner root rules target dryRun w).Matches (IsSnapshot root rules.names)
      (buildRules (runner.onSnapshot root rules.names) root rules target dryRun
        (Store.ofView root w rules.names, w)) := by
  refine buildRules_matches (fun w v h name hname => h.showsSame hd (hname.elim id (htarget name)))
    (fun hreal call hcall v hv => ?_) ⟨rfl, hlegible⟩
  obtain ⟨rfl, _⟩ := hv
  exact ⟨rfl, rfl, hkeeps hreal call hcall⟩

section

variable (hkeeps : ∀ call ∈ buildCalls runner root rules target w, runner.KeepsNames root rules.names call.1 call.2)
include hkeeps

/-- Where commands change no other names than their targets, they do so on the snapshot. -/
theorem keepsOthers_onSnapshot : ∀ call ∈ buildCalls (runner.onSnapshot root rules.names) root rules target
    (Store.ofView root w rules.names, w), (runner.onSnapshot root rules.names).KeepsOthers call.1 call.2 := by
  intro call' hcall'
  have hsame : ∀ call ∈ buildCalls runner root rules target w,
      runner.Keeps (IsSnapshot root rules.names) (runner.onSnapshot root rules.names) call.1 call.2 := by
    intro call hcall v hv
    obtain ⟨rfl, _⟩ := hv
    exact ⟨rfl, rfl, (hkeeps call hcall).legible⟩
  obtain ⟨call, hcall, hi, hstore, hlegible⟩ := exists_of_mem_buildCalls
    (fun w v h name hname => h.showsSame hd (hname.elim id (htarget name))) hsame ⟨rfl, hlegible⟩ hcall'
  rw [hstore, ← hi]
  exact (hkeeps call hcall).onSnapshot hd (cwd_of_mem_buildCalls hcall) hlegible

/-- In a world of any kind, a dry run says of every step what it comes to in a real build that ends well. -/
theorem buildRules_dry_of_ok_anywhere {outcome : Outcome}
    (h : (buildRules runner root rules target false w).result = .ok outcome) :
    (buildRules runner root rules target true w).result =
      .ok { outcome with report := ⟨outcome.report.results.map StepResult.foreseen⟩ } := by
  rw [(buildRules_matches_snapshot hd htarget hlegible fun _ call hcall => (hkeeps call hcall).legible).result] at h
  have hdry : (buildRules runner root rules target true w).Matches (IsSnapshot root rules.names) _ :=
    buildRules_matches_snapshot hd htarget hlegible nofun
  rw [hdry.result]
  exact buildRules_dry_of_ok hd (keepsOthers_onSnapshot hd htarget hlegible hkeeps) h

/-- In a world of any kind, a real build that ends well builds the planned targets with something stale below. -/
theorem mem_built_iff_anywhere {outcome : Outcome} {name : Name}
    (h : (buildRules runner root rules target false w).result = .ok outcome) :
    name ∈ outcome.report.built ↔ (∃ t ∈ outcome.plan.steps, t.name = name) ∧
      rules.StaleBelow root (Store.ofView root w rules.names) name := by
  rw [(buildRules_matches_snapshot hd htarget hlegible fun _ call hcall => (hkeeps call hcall).legible).result] at h
  rw [mem_built_iff_dry h]
  exact mem_wouldBuild_iff (buildRules_dry_of_ok hd (keepsOthers_onSnapshot hd htarget hlegible hkeeps) h)

end

end

end Rebuild
