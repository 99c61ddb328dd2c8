import Rebuild.Proofs.Graph.OfRules
import Rebuild.Proofs.Rule.Printing

/-!
# Rules of edges

- Edges that are put into groups one by one lie in the groups of their targets, in order, and the groups come in the
  order in which the targets come up first (`Draft.grouped_groupEdges`);
- the draft of a group depends on the sources of the group and names them in its command (`Draft.ofGroup_eq`), and is
  sound if all names of the edges and the producer can stand in a section (`Draft.sound_ofGroup`).

So the text of the drafts is read as rules that say what the edges say: `RuleSet.ofText_render_ofEdges`.
-/

namespace Rebuild

namespace Draft

variable {edges : List (Name × Name)} {groups : List Group} {edge : Name × Name} {producer : String}

/-- The sources of the edges of a target, in order. -/
def sourcesOf (edges : List (Name × Name)) (target : Name) : List Name :=
  (edges.filter (·.2 == target)).map Prod.fst

theorem sourcesOf_concat (edges : List (Name × Name)) (edge : Name × Name) (target : Name) :
    sourcesOf (edges ++ [edge]) target = sourcesOf edges target ++ if target = edge.2 then [edge.1] else [] := by
  unfold sourcesOf
  rw [List.filter_append, List.map_append]
  by_cases h : target = edge.2
  · simp [h]
  · simp [h, Ne.symm h]

/-- A name is a source of a target as often as there is an edge between them. -/
theorem count_sourcesOf (edges : List (Name × Name)) (source target : Name) :
    (sourcesOf edges target).count source = edges.count (source, target) := by
  unfold sourcesOf
  rw [List.count, List.countP_map, List.countP_filter, List.count]
  refine List.countP_congr fun edge _ => ?_
  simp [Prod.ext_iff]

theorem mem_sourcesOf {source target : Name} : source ∈ sourcesOf edges target ↔ (source, target) ∈ edges := by
  rw [← List.count_pos_iff, count_sourcesOf, List.count_pos_iff]

/-- The targets of the edges are the names that have a source. -/
theorem sourcesOf_ne_nil_iff {target : Name} : sourcesOf edges target ≠ [] ↔ target ∈ edges.map Prod.snd := by
  constructor
  · intro hne
    obtain ⟨source, hsource⟩ := List.exists_mem_of_ne_nil _ hne
    exact List.mem_map.mpr ⟨(source, target), mem_sourcesOf.mp hsource, rfl⟩
  · intro hmem
    obtain ⟨edge, hedge, rfl⟩ := List.mem_map.mp hmem
    exact List.ne_nil_of_mem (mem_sourcesOf.mpr hedge)

/-! ## Groups of edges -/

/-- An element at the end of a list is left out if it is there before. -/
theorem eraseDups_concat (names : List Name) (name : Name) :
    (names ++ [name]).eraseDups = names.eraseDups ++ if name ∈ names then [] else [name] := by
  rw [List.eraseDups_append]
  by_cases h : name ∈ names <;> simp [List.removeAll, h, List.eraseDups_cons]

/-- The sources in the group of a target, none if it has no group. -/
def sourcesIn (groups : List Group) (target : Name) : List Name :=
  (groups.lookup target).getD []

theorem sourcesIn_cons (key : Name) (sources : List Name) (groups : List Group) (target : Name) :
    sourcesIn ((key, sources) :: groups) target = if target = key then sources else sourcesIn groups target := by
  unfold sourcesIn
  rw [List.lookup_cons]
  by_cases h : target = key
  · subst h
    simp
  · rw [if_neg h, beq_eq_false_iff_ne.mpr h]

/-- An edge puts its target after the others, if it has no group yet. -/
theorem map_fst_addEdge (groups : List Group) (edge : Name × Name) : (addEdge groups edge).map Prod.fst =
    groups.map Prod.fst ++ if edge.2 ∈ groups.map Prod.fst then [] else [edge.2] := by
  induction groups with
  | nil => rfl
  | cons group groups ih =>
    rw [addEdge]
    by_cases h : group.1 = edge.2
    · simp [h]
    · have hmem : edge.2 ∈ (group :: groups).map Prod.fst ↔ edge.2 ∈ groups.map Prod.fst := by
        rw [List.map_cons, List.mem_cons]
        exact or_iff_right (Ne.symm h)
      rw [if_neg h, List.map_cons, ih]
      simp only [hmem]
      rfl

/-- An edge puts its source after those of its target, and changes the sources of no other. -/
theorem sourcesIn_addEdge (groups : List Group) (edge : Name × Name) (target : Name) :
    sourcesIn (addEdge groups edge) target =
      sourcesIn groups target ++ if target = edge.2 then [edge.1] else [] := by
  induction groups with
  | nil =>
    rw [addEdge, sourcesIn_cons]
    rfl
  | cons group groups ih =>
    obtain ⟨key, sources⟩ := group
    rw [addEdge]
    by_cases hkey : key = edge.2
    · subst hkey
      rw [if_pos rfl, sourcesIn_cons, sourcesIn_cons]
      by_cases h : target = edge.2 <;> simp [h]
    · rw [if_neg hkey, sourcesIn_cons, sourcesIn_cons, ih]
      by_cases h : target = key <;> simp [h, hkey]

/-- The groups of some edges. -/
structure Grouped (edges : List (Name × Name)) (groups : List Group) : Prop where
  targets : groups.map Prod.fst = (edges.map Prod.snd).eraseDups
  nodup : (groups.map Prod.fst).Nodup
  sources : ∀ target, sourcesIn groups target = sourcesOf edges target

theorem grouped_nil : Grouped [] [] where
  targets := by simp
  nodup := List.nodup_nil
  sources := fun _ => rfl

/-- One edge more is put where it belongs. -/
theorem Grouped.addEdge (h : Grouped edges groups) (edge : Name × Name) :
    Grouped (edges ++ [edge]) (addEdge groups edge) where
  targets := by
    have hmem : edge.2 ∈ groups.map Prod.fst ↔ edge.2 ∈ edges.map Prod.snd := by rw [h.targets, List.mem_eraseDups]
    rw [map_fst_addEdge, List.map_append, List.map_singleton, eraseDups_concat, ← h.targets]
    simp only [hmem]
  nodup := by
    rw [map_fst_addEdge]
    split
    · rw [List.append_nil]
      exact h.nodup
    · next hnew => exact List.nodup_append_comm.mp (List.nodup_cons.mpr ⟨hnew, h.nodup⟩)
  sources := fun target => by rw [sourcesIn_addEdge, h.sources, sourcesOf_concat]

theorem Grouped.foldl (h : Grouped edges groups) (more : List (Name × Name)) :
    Grouped (edges ++ more) (more.foldl Draft.addEdge groups) := by
  induction more generalizing edges groups with
  | nil =>
    rw [List.append_nil]
    exact h
  | cons edge more ih =>
    rw [List.append_cons]
    exact ih (h.addEdge edge)

theorem grouped_groupEdges (edges : List (Name × Name)) : Grouped edges (groupEdges edges) :=
  grouped_nil.foldl edges

/-- A group holds the sources of its target. -/
theorem Grouped.eq_sourcesOf (h : Grouped edges groups) {group : Group} (hg : group ∈ groups) :
    group.2 = sourcesOf edges group.1 := by
  have hlookup : groups.lookup group.1 = some group.2 := (lookup_eq_some_iff_mem h.nodup).mpr hg
  rw [← h.sources, sourcesIn, hlookup]
  rfl

/-! ## The drafts of groups -/

theorem foldl_addSource (d : Draft) (sources : List Name) :
    sources.foldl addSource d = { d with deps := d.deps ++ sources, command := d.command ++ sources } := by
  induction sources generalizing d with
  | nil => simp
  | cons source sources ih =>
    rw [List.foldl_cons, ih]
    simp [addSource]

theorem ofGroup_eq (producer : String) (group : Group) :
    ofGroup producer group = ⟨group.1, group.2, producer :: group.2 ++ ["--target=" ++ group.1]⟩ := by
  unfold ofGroup
  rw [foldl_addSource]
  rfl

/-- A word is no delimiter after `--target=`, and stays one word. -/
theorem isItem_targetOption {target : Name} (h : IsItem target) : IsItem ("--target=" ++ target) := by
  have hoption : Text.IsWord "--target=" := by decide
  refine ⟨⟨fun he => ?_, fun c hc => ?_⟩, fun he => ?_⟩
  · have := congrArg String.toList he
    simp at this
  · rw [String.toList_append, List.mem_append] at hc
    rcases hc with hc | hc
    · exact hoption.not_blank c hc
    · exact h.1.not_blank c hc
  · have := congrArg String.toList he
    simp [delimiter] at this

theorem sound_ofGroup {group : Group} (hp : IsItem producer) (ht : IsItem group.1) (hs : ∀ s ∈ group.2, IsItem s)
    (hne : group.2 ≠ []) : (ofGroup producer group).Sound := by
  rw [ofGroup_eq]
  refine ⟨?_, hne, List.cons_ne_nil _ _⟩
  intro w hw
  simp only [items, List.cons_append, List.mem_cons, List.mem_append, List.not_mem_nil, or_false] at hw
  rcases hw with rfl | hw | rfl | hw | rfl
  · exact ht
  · exact hs w hw
  · exact hp
  · exact hs w hw
  · exact isItem_targetOption ht

/-- The drafts of edges between names that can stand in a section are sound. -/
theorem sound_of_mem_ofEdges (hp : IsItem producer) (hnames : ∀ edge ∈ edges, IsItem edge.1 ∧ IsItem edge.2) :
    ∀ d ∈ ofEdges edges producer, d.Sound := by
  have hgroups := grouped_groupEdges edges
  refine List.forall_mem_map.mpr fun group hg => ?_
  have hsources := hgroups.eq_sourcesOf hg
  have hne : group.2 ≠ [] := by
    rw [hsources, sourcesOf_ne_nil_iff, ← List.mem_eraseDups, ← hgroups.targets]
    exact List.mem_map_of_mem hg
  have hedge : ∀ source ∈ group.2, (source, group.1) ∈ edges := by
    intro source hsource
    rw [hsources] at hsource
    exact mem_sourcesOf.mp hsource
  obtain ⟨source, hsource⟩ := List.exists_mem_of_ne_nil _ hne
  exact sound_ofGroup hp (hnames _ (hedge source hsource)).2 (fun s hs => (hnames _ (hedge s hs)).1) hne

theorem map_target_ofEdges (edges : List (Name × Name)) (producer : String) :
    (ofEdges edges producer).map Draft.target = (groupEdges edges).map Prod.fst := by
  unfold ofEdges
  rw [List.map_map]
  exact List.map_congr_left fun group _ => by rw [Function.comp_apply, ofGroup_eq]

end Draft

open Draft

namespace RuleSet

variable {rules : RuleSet} {edges : List (Name × Name)} {producer : String}

/-! ## The rules of edges -/

/-- The rules whose drafts are those of edges have the targets of the edges. -/
theorem map_name_of_ofEdges (h : rules.targets.map ofTarget = ofEdges edges producer) :
    rules.targets.map Target.name = (edges.map Prod.snd).eraseDups := by
  rw [← (grouped_groupEdges edges).targets, ← map_target_ofEdges edges producer, ← h, List.map_map]
  rfl

/-- Each depends on the sources of its target, and its command names them. -/
theorem parts_of_ofEdges (h : rules.targets.map ofTarget = ofEdges edges producer) {t : Target}
    (ht : t ∈ rules.targets) :
    t.deps = sourcesOf edges t.name ∧ t.command = producer :: t.deps ++ ["--target=" ++ t.name] := by
  have hmem : ofTarget t ∈ ofEdges edges producer := h ▸ List.mem_map_of_mem ht
  obtain ⟨group, hg, hdraft⟩ := List.mem_map.mp hmem
  rw [ofGroup_eq] at hdraft
  obtain ⟨hname, hdeps, hcommand⟩ := Draft.mk.inj hdraft
  rw [← hname, ← hdeps, ← hcommand]
  exact ⟨(grouped_groupEdges edges).eq_sourcesOf hg, rfl⟩

/-- In their graph a name depends on the sources of its edges. -/
theorem dependencies_of_ofEdges (h : rules.targets.map ofTarget = ofEdges edges producer) (name : Name) :
    (Graph.ofRules rules).dependencies name = sourcesOf edges name := by
  rw [Graph.dependencies_eq, Graph.rule?_ofRules]
  cases hget : rules.get? name with
  | some t =>
    obtain ⟨ht, rfl⟩ := get?_eq_some_iff.mp hget
    exact (parts_of_ofEdges h ht).1
  | none =>
    have hnot : name ∉ edges.map Prod.snd := by
      rw [← List.mem_eraseDups, ← map_name_of_ofEdges h]
      exact get?_eq_none_iff.mp hget
    have hnil : sourcesOf edges name = [] := by
      by_contra hne
      exact hnot (sourcesOf_ne_nil_iff.mp hne)
    rw [hnil]
    rfl

/-- **Edges survive the trip through rule text.** Let the producer and the names of the edges be words other than the
delimiter. The text of the edges' rules is then read, as rules for the targets of the edges, in the order in which these
come up first. Each target depends on the sources of its edges, in order and with repetitions, and its command is the
producer, these sources and `--target=` with the target. In the graph of the rules a name depends on another as often as
there is an edge between them; so it depends on it exactly if there is one. -/
theorem ofText_render_ofEdges (edges : List (Name × Name)) (producer : String) (hproducer : IsItem producer)
    (hnames : ∀ edge ∈ edges, IsItem edge.1 ∧ IsItem edge.2) :
    ∃ rules, ofText (render (ofEdges edges producer)) = .ok rules ∧
      rules.targets.map Target.name = (edges.map Prod.snd).eraseDups ∧
      (∀ t ∈ rules.targets, t.deps = sourcesOf edges t.name ∧
        t.command = producer :: t.deps ++ ["--target=" ++ t.name]) ∧
      (∀ x y, ((Graph.ofRules rules).dependencies y).count x = edges.count (x, y)) ∧
      ∀ x y, x ∈ (Graph.ofRules rules).dependencies y ↔ (x, y) ∈ edges := by
  have hnodup : ((ofEdges edges producer).map Draft.target).Nodup := by
    rw [map_target_ofEdges]
    exact (grouped_groupEdges edges).nodup
  obtain ⟨rules, hread, hdrafts⟩ := exists_ofText_render hnodup (sound_of_mem_ofEdges hproducer hnames)
  refine ⟨rules, hread, map_name_of_ofEdges hdrafts, fun t ht => parts_of_ofEdges hdrafts ht, fun x y => ?_,
    fun x y => ?_⟩
  · rw [dependencies_of_ofEdges hdrafts, count_sourcesOf]
  · rw [dependencies_of_ofEdges hdrafts, mem_sourcesOf]

/-- Edges of two targets in turns, one of them twice and one from a target to itself, come back as two rules. -/
theorem ofText_render_ofEdges_turns :
    let edges := [("a:b", "out"), ("é", "mid"), ("mid", "out"), ("a:b", "out"), ("mid", "mid")]
    IsItem "cat" ∧ (∀ edge ∈ edges, IsItem edge.1 ∧ IsItem edge.2) ∧
      ∃ rules, ofText (render (ofEdges edges "cat")) = .ok rules ∧ rules.targets.map Target.name = ["out", "mid"] ∧
        (∀ t ∈ rules.targets, t.deps = sourcesOf edges t.name ∧
          t.command = "cat" :: t.deps ++ ["--target=" ++ t.name]) ∧
        sourcesOf edges "out" = ["a:b", "mid", "a:b"] ∧ ((Graph.ofRules rules).dependencies "out").count "a:b" = 2 ∧
        "mid" ∈ (Graph.ofRules rules).dependencies "mid" := by
  intro edges
  have hproducer : IsItem "cat" := by decide +kernel
  have hnames : ∀ edge ∈ edges, IsItem edge.1 ∧ IsItem edge.2 := by decide +kernel
  obtain ⟨rules, hread, htargets, hparts, hcount, hmem⟩ := ofText_render_ofEdges edges "cat" hproducer hnames
  exact ⟨hproducer, hnames, rules, hread, htargets.trans (by decide +kernel), hparts, by decide +kernel,
    (hcount "a:b" "out").trans (by decide +kernel), (hmem "mid" "mid").mpr (by decide +kernel)⟩

end RuleSet

end Rebuild
