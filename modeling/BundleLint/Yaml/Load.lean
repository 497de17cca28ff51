import BundleLint.Yaml.Compose
import BundleLint.Yaml.Construct

/-!
# Reading a document

The value of a document: its text is composed into nodes, the nodes are given their parts of the
value, and the parts are put together as a tree. A part that contains itself gets a label.
-/

namespace BundleLint.Yaml

/-- Values of nodes that are known to contain no node above them. -/
abbrev Known := Array (Option Value)

/-- A value with the nodes above it that it refers to. -/
structure Unfolded where
  /-- The value. -/
  value : Value
  /-- Numbers of the nodes above it that it refers to. -/
  above : List Nat

/-- Label of a collection, by the nodes that its parts refer to. -/
private def labelFor (id : Nat) (above : List Nat) : Option Nat :=
  if above.isEmpty then none else some id

/-- Finishes a collection; its value is kept if it refers to no node above it. -/
private def finish (id : Nat) (above : List Nat) (build : Option Nat → Value) :
    StateM Known Unfolded := do
  let value := build (labelFor id above)
  if above.isEmpty then modify fun known => known.set! id (some value)
  return { value, above := (above.filter (· != id)).eraseDups }

/-- The value of a node below the nodes of a path, within a bound on the depth. -/
def unfold (parts : Array (Option Part)) :
    (steps : Nat) → (path : List Nat) → (id : Nat) → StateM Known Unfolded
  | 0, _, _ => return { value := .null, above := [] }
  | steps + 1, path, id => do
    match (← get)[id]? with
    | some (some value) => return { value, above := [] }
    | _ =>
      let visited := path.contains id
      match parts[id]? with
      | some (some (.atom value)) => return { value, above := [] }
      | some (some .namedNotANumber) => return { value := .float Number.notANumber, above := [] }
      | some (some (.set elements)) => return { value := .set elements, above := [] }
      | some (some (.list items)) =>
        if visited then return { value := .back id false, above := [id] }
        else
          let inner ← items.mapM (unfold parts steps (id :: path))
          finish id (inner.flatMap (·.above)) (.list · (inner.map (·.value)))
      | some (some (.map entries)) =>
        if visited then return { value := .back id true, above := [id] }
        else
          let inner ← entries.mapM fun entry => unfold parts steps (id :: path) entry.2
          let keys := entries.map (·.1)
          finish id (inner.flatMap (·.above)) (.map · (keys.zip (inner.map (·.value))))
      | some (some (.pairs items)) =>
        if visited then return { value := .back id false, above := [id] }
        else
          let inner : List Unfolded ← items.mapM fun (key, value) => do
            let key ← unfold parts steps (id :: path) key
            let value ← unfold parts steps (id :: path) value
            return { value := .tuple [key.value, value.value], above := key.above ++ value.above }
          finish id (inner.flatMap (·.above)) (.list · (inner.map (·.value)))
      | _ => return { value := .null, above := [] }

/-- The value of a document with the place of its root. -/
structure Document where
  /-- The value. -/
  value : Value
  /-- Number of characters before the root. -/
  start : Nat

/-- Reads a text that holds at most one document. -/
def load (source : Source) : Except Fault (Option Document) := do
  match ← compose source with
  | (none, _) => return none
  | (some root, graph) =>
    let parts ← construct root graph
    let unknown : Known := Array.replicate parts.size none
    let (unfolded, _) := (unfold parts (parts.size + 1) [] root).run unknown
    return some { value := unfolded.value, start := graph.start root }

end BundleLint.Yaml
