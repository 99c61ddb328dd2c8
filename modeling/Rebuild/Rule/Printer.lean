import Rebuild.Rule.Validation

/-!
# Writing rules

A `Draft` is a rule to be written, whether it holds or not. `Draft.render` writes drafts one word to a line, with an
empty line between rules; `Draft.ofEdges` groups pairs of a source and a target into one draft for each target.
-/

namespace Rebuild

/-- A rule to be written. -/
structure Draft where
  target : Name
  deps : List Name
  command : List String
deriving DecidableEq, Repr

namespace Draft

/-- The draft of a rule that holds. -/
def ofTarget (t : Target) : Draft :=
  ⟨t.name, t.deps, t.command⟩

/-- The words of a rule with a delimiter after each section. -/
def words (d : Draft) : List String :=
  d.target :: delimiter :: d.deps ++ delimiter :: d.command ++ [delimiter]

/-- The block of a draft, one word to a line. -/
def block (d : Draft) : String :=
  "\n".intercalate d.words

/-- The text of drafts: their blocks with an empty line between them. -/
def render : List Draft → String
  | [] => ""
  | drafts => "\n\n".intercalate (drafts.map block) ++ "\n"

/-! ## Edges -/

/-- A target and the sources of its edges. -/
abbrev Group := Name × List Name

/-- Puts an edge, from its source to its target, into the group of the target, or into a new one after all others. -/
def addEdge : List Group → Name × Name → List Group
  | [], (source, target) => [(target, [source])]
  | group :: groups, edge =>
    if group.1 = edge.2 then (group.1, group.2 ++ [edge.1]) :: groups else group :: addEdge groups edge

/-- The sources of the edges by their targets, in the order in which these come up first. -/
def groupEdges (edges : List (Name × Name)) : List Group :=
  edges.foldl addEdge []

/-- The draft with a dependency more, which is the next argument of the command as well. -/
def addSource (d : Draft) (source : Name) : Draft :=
  { d with deps := d.deps ++ [source], command := d.command ++ [source] }

/-- The draft of a group: its command is the producer, the sources and `--target=` with the target. -/
def ofGroup (producer : String) (group : Group) : Draft :=
  let d := group.2.foldl addSource ⟨group.1, [], [producer]⟩
  { d with command := d.command ++ ["--target=" ++ group.1] }

/-- One draft for each target of the edges. -/
def ofEdges (edges : List (Name × Name)) (producer : String) : List Draft :=
  (groupEdges edges).map (ofGroup producer)

end Draft

end Rebuild
