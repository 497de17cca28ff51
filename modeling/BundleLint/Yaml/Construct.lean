import BundleLint.Yaml.Graph
import BundleLint.Yaml.Scalar

/-!
# Building the values of nodes

Every node gets its part of the value once. Scalars are built at once; a collection is begun empty
and filled after the collections that were begun before it, which decides which fault of several
comes up.
-/

namespace BundleLint.Yaml

/-- The part of the value that belongs to a node. Collections refer to nodes by number. -/
inductive Part where
  /-- A value without parts. -/
  | atom (value : Value)
  /-- The value that is no number, given by its name. There is only one such value. -/
  | namedNotANumber
  /-- A list. -/
  | list (items : List Nat)
  /-- A mapping. -/
  | map (entries : List (Value × Nat))
  /-- A set. -/
  | set (elements : List Value)
  /-- A list of pairs. -/
  | pairs (items : List (Nat × Nat))

/-- An entry of a mapping under construction. -/
structure KeyedPart where
  /-- The key. -/
  key : Value
  /-- Number of the node that the key comes from; nothing for the value that has a name. -/
  origin : Option Nat
  /-- Number of the node of the value. -/
  value : Nat

/-- What is known while values are built. -/
structure Builder where
  /-- The nodes. Merging changes mappings. -/
  graph : Graph
  /-- The parts built so far, by the numbers of their nodes. -/
  parts : Array (Option Part)
  /-- Collections begun and not yet filled, in order. -/
  pending : List Nat
  /-- Bound on the number of merges. -/
  mergeBound : Nat

/-- Number of all entries of mappings. -/
def Graph.entryCount (graph : Graph) : Nat :=
  (graph.toList.map fun node =>
    match node.content with
    | .mapping entries => entries.length
    | _ => 0).foldr (· + ·) 0

/-- What is known before the first value. -/
def Builder.initial (graph : Graph) : Builder :=
  { graph, parts := Array.replicate graph.size none, pending := []
    mergeBound := 2 * graph.entryCount + 2 }

/-- A computation that builds values. -/
abbrev Build := StateT Builder (Except Fault)

namespace Build

/-- A node by number. -/
def node (id : Nat) : Build Node := do
  match (← get).graph[id]? with
  | some node => return node
  | none => return { tag := .null, content := .scalar [], start := 0 }

/-- Keeps the part of a node. -/
def keep (id : Nat) (part : Part) : Build Unit :=
  modify fun builder => { builder with parts := builder.parts.set! id (some part) }

/-- Begins a collection, which is filled later. -/
def beginEmpty (id : Nat) (part : Part) : Build Unit := do
  keep id part
  modify fun builder => { builder with pending := builder.pending ++ [id] }

/-- Greatest depth of values that stand in for each other, and of mappings that are merged into each
other. -/
def depthLimit : Nat := 960

/-- The text of a scalar, within a bound on the steps. A mapping counts as the value of its
stand-in key. -/
def scalarText : (steps : Nat) → (id : Nat) → Build (List CodePoint)
  | 0, _ => throw .tooDeep
  | steps + 1, id => do
    let node ← node id
    let graph := (← get).graph
    match node.content with
    | .scalar text => return text
    | .mapping entries =>
      match entries.find? fun (key, _) => graph.tag? key == some .standIn with
      | some (_, value) => scalarText steps value
      | none => throw (Fault.plain (.expectedNode .scalar .mapping) node.start)
    | .sequence _ => throw (Fault.plain (.expectedNode .scalar .sequence) node.start)

/-- The part of a node of a type whose values are given as text. -/
def leaf (id : Nat) (read : List CodePoint → Except Fault Part) : Build Unit := do
  let text ← scalarText depthLimit id
  let part ← liftM (read text)
  keep id part

/-- The value of a node of a type without parts. -/
def atom (id : Nat) (read : List CodePoint → Except Fault Value) : Build Unit :=
  leaf id fun text => (read text).map .atom

/-- The part of a node that is a floating-point number. -/
def realPart (text : List CodePoint) : Except Fault Part :=
  if Scalar.isNotANumber text then .ok .namedNotANumber
  else (Scalar.readFloat text).map fun x => .atom (.float x)

/-- A date or a time. The text must stand in the node itself; a final line feed does not count. -/
def timestamp (node : Node) : Except Fault Value :=
  match node.content with
  | .scalar text =>
    match (Text.characters? text).bind fun text => timestampParts? (beforeFinalFeed text) with
    | some parts => parts.value.mapError fun fault => .value (.calendar fault)
    | none => .error .notTimestamp
  | _ => .error (.value .notText)

/-- Begins the value of a node, unless that has been done. -/
def start (id : Nat) : Build Unit := do
  match (← get).parts[id]? with
  | some (some _) => return
  | _ =>
    let node ← node id
    match node.tag with
    | .null => atom id fun _ => .ok .null
    | .bool => atom id fun text => (Scalar.readBool text).map .bool
    | .int => atom id fun text => (Scalar.readInt text).map .int
    | .float => leaf id realPart
    | .timestamp => atom id fun _ => timestamp node
    | .text => atom id fun text => .ok (.text text)
    | .binary => atom id fun text => (Scalar.readBinary text node.start).map .bytes
    | .sequence => beginEmpty id (.list [])
    | .mapping => beginEmpty id (.map [])
    | .set => beginEmpty id (.set [])
    | .orderedMap | .pairs => beginEmpty id (.pairs [])
    | .merge | .standIn | .other _ =>
      throw (Fault.plain (.unknownTag (String.ofList node.tag.address)) node.start)

/-- Turns stand-in keys among entries into text. -/
def settleKeys (entries : List (Nat × Nat)) : Build Unit :=
  modify fun builder =>
    let settle := fun (graph : Graph) (entry : Nat × Nat) =>
      if graph.tag? entry.1 == some .standIn then graph.setTag entry.1 .text else graph
    { builder with graph := entries.foldl settle builder.graph }

/-- Sets the entries of a mapping. -/
def setEntries (id : Nat) (entries : List (Nat × Nat)) : Build Unit :=
  modify fun builder =>
    { builder with graph := builder.graph.setContent id (.mapping entries) }

/-- Refuses something that comes up in a collection. -/
def refuse {α : Type} (subject : Subject) (collection : Nat) (problem : Problem) (culprit : Nat) :
    Build α := do
  let graph := (← get).graph
  throw (Fault.during .constructing subject (graph.start collection) problem (graph.start culprit))

/-- Merges into a mapping, from an entry on, what its merge keys say; `merged` are the entries
merged so far, which come before its own. Merged mappings are themselves merged first, and `depth`
bounds how far they are nested. -/
def mergeFrom :
    (steps depth : Nat) → (id index : Nat) → (merged : List (Nat × Nat)) → Build Unit
  | 0, _, _, _, _ | _ + 1, 0, _, _, _ => throw .tooDeep
  | steps + 1, depth + 1, id, index, merged => do
    let graph := (← get).graph
    let isMerge := fun (entry : Nat × Nat) => graph.tag? entry.1 == some .merge
    let entries := graph.entries id
    let passed := (entries.drop index).takeWhile fun entry => !isMerge entry
    settleKeys passed
    match (entries.drop index).dropWhile fun entry => !isMerge entry with
    | [] => if !merged.isEmpty then setEntries id (merged ++ entries)
    | (_, source) :: after =>
      setEntries id (entries.take index ++ passed ++ after)
      let position := index + passed.length
      match (graph[source]?).map Node.content with
      | some (.mapping _) =>
        mergeFrom steps depth source 0 []
        mergeFrom steps (depth + 1) id position (merged ++ (← get).graph.entries source)
      | some (.sequence items) =>
        let groups ← items.mapM fun item => do
          let kind := (← get).graph.kind item
          if kind != .mapping then refuse .mapping id (.unmergeableItem kind) item
          mergeFrom steps depth item 0 []
          return (← get).graph.entries item
        mergeFrom steps (depth + 1) id position (merged ++ groups.reverse.flatten)
      | _ => refuse .mapping id (.unmergeable .scalar) source

/-- Follows the merge keys of a mapping. -/
def merge (id : Nat) : Build Unit := do
  mergeFrom (← get).mergeBound depthLimit id 0 []

/-- Whether two entries have the same key. Keys that are no numbers are the same if they have the
same origin; otherwise they differ from all others. -/
def sameEntry (left right : KeyedPart) : Bool :=
  match left.key, right.key with
  | .float x, .float y => x == y || (x.isNaN && y.isNaN && left.origin == right.origin)
  | key, other => sameKey key other

/-- Adds an entry to those of a mapping under construction, or sets the value of its key. -/
def insertPart (entry : KeyedPart) : List KeyedPart → List KeyedPart
  | [] => [entry]
  | held :: rest =>
    if sameEntry held entry then { held with value := entry.value } :: rest
    else held :: insertPart entry rest

/-- The value of a node that is a key, with its origin. -/
def key (id entry : Nat) : Build (Value × Option Nat) := do
  start entry
  match (← get).parts[entry]? with
  | some (some (.atom value)) => return (value, some entry)
  | some (some .namedNotANumber) => return (.float Number.notANumber, none)
  | _ => refuse .mapping id .unhashableKey entry

/-- The entries of a mapping, of which equal keys fall together. -/
def entries (id : Nat) : Build (List (Value × Nat)) := do
  let node ← node id
  match node.content with
  | .mapping _ =>
    merge id
    let built ← ((← get).graph.entries id).foldlM
      (fun built (keyNode, value) => do
        let (key, origin) ← key id keyNode
        start value
        return insertPart { key, origin, value } built)
      []
    return built.map fun entry => (entry.key, entry.value)
  | content => throw (Fault.plain (.expectedNode .mapping content.kind) node.start)

/-- The items of a list. -/
def items (id : Nat) : Build (List Nat) := do
  let node ← node id
  match node.content with
  | .sequence items =>
    items.forM start
    return items
  | content => throw (Fault.plain (.expectedNode .sequence content.kind) node.start)

/-- An item of a list of pairs, which is a mapping with one entry. -/
def pair (subject : Subject) (id item : Nat) : Build (Nat × Nat) := do
  let graph := (← get).graph
  match graph.kind item, graph.entries item with
  | .mapping, [(key, value)] =>
    start key
    start value
    return (key, value)
  | .mapping, entries => refuse subject id (.pairSize entries.length) item
  | kind, _ => refuse subject id (.pairNotMapping kind) item

/-- The items of a list of pairs. -/
def pairs (subject : Subject) (id : Nat) : Build (List (Nat × Nat)) := do
  match (← node id).content with
  | .sequence items => items.mapM (pair subject id)
  | content => refuse subject id (.pairsNotSequence content.kind) id

/-- Fills a collection. -/
def fill (id : Nat) : Build Unit := do
  match (← node id).tag with
  | .sequence => keep id (.list (← items id))
  | .mapping => keep id (.map (← entries id))
  | .set => keep id (.set ((← entries id).map (·.1)))
  | .orderedMap => keep id (.pairs (← pairs .orderedMap id))
  | .pairs => keep id (.pairs (← pairs .pairs id))
  | _ => return

/-- Fills the collections that wait for it, within a bound on their number. -/
def fillPending : (steps : Nat) → Build Unit
  | 0 => return
  | steps + 1 => do
    match (← get).pending with
    | [] => return
    | id :: pending =>
      modify fun builder => { builder with pending }
      fill id
      fillPending steps

/-- Builds the value of a node with all its parts. -/
def build (root : Nat) : Build Unit := do
  start root
  fillPending ((← get).graph.size + 1)

end Build

/-- The parts of the value of a document. -/
def construct (root : Nat) (graph : Graph) : Except Fault (Array (Option Part)) := do
  let ((), builder) ← (Build.build root).run (.initial graph)
  return builder.parts

end BundleLint.Yaml
