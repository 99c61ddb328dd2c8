import Std.Data.TreeMap
import Rebuild.Rule.Basic

/-!
# The dependency graph

The nodes of the graph are the names that occur in a rule set. A node knows its rule, if it has one, and the targets
that depend on it; its dependencies are those of its rule. A node without a rule is a leaf: a file that has to be there.
-/

namespace Rebuild

/-- A name of a rule set: its rule, if it has one, and the targets that depend on it, in the order of their rules. -/
structure Node where
  rule : Option Target
  dependents : List Name
deriving DecidableEq

namespace Node

/-- A name without a rule. -/
def leaf : Node := ⟨none, []⟩

/-- The dependencies of a node, in order and with repetitions. -/
def deps (n : Node) : List Name :=
  match n.rule with
  | some t => t.deps
  | none => []

/-- The node with one more dependent. -/
def addDependent (n : Node) (target : Name) : Node :=
  if target ∈ n.dependents then n else { n with dependents := n.dependents ++ [target] }

end Node

/-- The nodes by name, and the targets in the order of their rules. -/
structure Graph where
  nodes : Std.TreeMap Name Node
  targets : List Name

namespace Graph

/-! ## Construction -/

/-- Nodes by name. -/
abbrev Nodes := Std.TreeMap Name Node

/-- Adds the node of a target, without dependents. -/
def addTarget (nodes : Nodes) (t : Target) : Nodes :=
  nodes.insert t.name ⟨some t, []⟩

/-- Records that a target depends on a name, which becomes a leaf if it is new. -/
def addDependent (target : Name) (nodes : Nodes) (dep : Name) : Nodes :=
  nodes.alter dep fun node => some ((node.getD .leaf).addDependent target)

/-- Records the dependencies of a target. -/
def addDependents (nodes : Nodes) (t : Target) : Nodes :=
  t.deps.foldl (addDependent t.name) nodes

/-- The graph of a rule set. -/
def ofRules (rules : RuleSet) : Graph where
  nodes := rules.targets.foldl addDependents (rules.targets.foldl addTarget ∅)
  targets := rules.targets.map Target.name

/-! ## Questions -/

/-- The node of a name. -/
def node? (g : Graph) (name : Name) : Option Node :=
  g.nodes[name]?

/-- The rule of a name. -/
def rule? (g : Graph) (name : Name) : Option Target :=
  (g.node? name).bind Node.rule

/-- Whether a name has a rule. -/
def isTarget (g : Graph) (name : Name) : Bool :=
  (g.rule? name).isSome

/-- The dependencies of a name, in order and with repetitions; none if the graph does not have it. -/
def dependencies (g : Graph) (name : Name) : List Name :=
  match g.node? name with
  | some node => node.deps
  | none => []

/-- The targets that depend on a name, in the order of their rules. -/
def dependents (g : Graph) (name : Name) : List Name :=
  match g.node? name with
  | some node => node.dependents
  | none => []

/-- The names of the nodes and of their dependencies, with repetitions. -/
def names (g : Graph) : List Name :=
  g.nodes.toList.flatMap fun entry => entry.1 :: entry.2.deps

theorem mem_names_of_node? {g : Graph} {name : Name} {node : Node} (h : g.node? name = some node) :
    name ∈ g.names := by
  have : (name, node) ∈ g.nodes.toList := Std.TreeMap.mem_toList_iff_getElem?_eq_some.mpr h
  exact List.mem_flatMap.mpr ⟨_, this, by simp⟩

theorem mem_names_of_mem_dependencies {g : Graph} {name dep : Name} (h : dep ∈ g.dependencies name) :
    dep ∈ g.names := by
  unfold dependencies at h
  split at h
  · next node hn =>
    have : (name, node) ∈ g.nodes.toList := Std.TreeMap.mem_toList_iff_getElem?_eq_some.mpr hn
    exact List.mem_flatMap.mpr ⟨_, this, by simp [h]⟩
  · cases h

theorem length_dependencies_le (g : Graph) (name : Name) : (g.dependencies name).length ≤ g.names.length := by
  unfold dependencies
  split
  · next node hn =>
    have : (name, node) ∈ g.nodes.toList := Std.TreeMap.mem_toList_iff_getElem?_eq_some.mpr hn
    have hsub : (name :: node.deps).Sublist g.names := List.sublist_flatten_of_mem (List.mem_map.mpr ⟨_, this, rfl⟩)
    exact Nat.le_of_succ_le hsub.length_le
  · exact Nat.zero_le _

end Graph

end Rebuild
