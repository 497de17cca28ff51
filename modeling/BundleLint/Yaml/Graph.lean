import BundleLint.Yaml.Fault
import BundleLint.Yaml.Tag

/-!
# Node graphs

The nodes of a document. Nodes are numbered, and collections refer to their parts by number, so a
node may be part of several collections and of itself.
-/

namespace BundleLint.Yaml

/-- What a node holds. -/
inductive Content where
  /-- Text. -/
  | scalar (text : List CodePoint)
  /-- Numbers of the items. -/
  | sequence (items : List Nat)
  /-- Numbers of the keys with their values. -/
  | mapping (entries : List (Nat × Nat))
  deriving DecidableEq, Repr

/-- The kind of a content. -/
def Content.kind : Content → NodeKind
  | .scalar _ => .scalar
  | .sequence _ => .sequence
  | .mapping _ => .mapping

/-- A node. -/
structure Node where
  /-- Type. -/
  tag : Tag
  /-- What the node holds. -/
  content : Content
  /-- Number of characters before it. -/
  start : Nat
  deriving DecidableEq, Repr

/-- The nodes of a document, of which the places are the numbers. -/
abbrev Graph := Array Node

/-- Kind of a node by number; a missing node counts as a scalar. -/
def Graph.kind (graph : Graph) (id : Nat) : NodeKind :=
  match graph[id]? with
  | some node => node.content.kind
  | none => .scalar

/-- Place of a node by number. -/
def Graph.start (graph : Graph) (id : Nat) : Nat :=
  match graph[id]? with
  | some node => node.start
  | none => 0

/-- Type of a node by number, if there is such a node. -/
def Graph.tag? (graph : Graph) (id : Nat) : Option Tag :=
  graph[id]?.map (·.tag)

/-- Entries of a mapping by number; other nodes have none. -/
def Graph.entries (graph : Graph) (id : Nat) : List (Nat × Nat) :=
  match graph[id]? with
  | some { content := .mapping entries, .. } => entries
  | _ => []

/-- Replaces the content of a node. -/
def Graph.setContent (graph : Graph) (id : Nat) (content : Content) : Graph :=
  graph.modify id fun node => { node with content }

/-- Replaces the type of a node. -/
def Graph.setTag (graph : Graph) (id : Nat) (tag : Tag) : Graph :=
  graph.modify id fun node => { node with tag }

end BundleLint.Yaml
