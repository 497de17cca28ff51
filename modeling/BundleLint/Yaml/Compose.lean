import BundleLint.Yaml.Graph
import BundleLint.Yaml.Lexer

/-!
# Composing a document

Grouping the tokens of a document into a node graph. Tokens are taken only when they are needed,
so the first fault in the order of the text comes up, whether it lies in a token, in the grouping
or in the names of nodes.
-/

namespace BundleLint.Yaml

/-- What is known between two tokens of a document. -/
structure Composer where
  /-- The tokens to come. -/
  tokens : List PlacedToken
  /-- The fault that comes up after them. -/
  fault : Option Fault
  /-- Tag handles with what they stand for. -/
  handles : List (List Char × List Char)
  /-- Names of nodes with their numbers. -/
  anchors : List (List Char × Nat)
  /-- The nodes so far. -/
  graph : Graph

/-- Tag handles that need no declaration. -/
def defaultHandles : List (List Char × List Char) :=
  [(['!'], ['!']), (['!', '!'], tagDomain)]

/-- What is known before the first token. -/
def Composer.initial (run : TokenRun) : Composer :=
  { tokens := run.tokens, fault := run.fault, handles := defaultHandles, anchors := []
    graph := #[] }

/-- Greatest number of collections inside each other. -/
def depthLimit : Nat := 400

/-- Where a node stands. -/
inductive NodePlace where
  /-- Outside flow collections. -/
  | block
  /-- As a key or a value of a block mapping, where a sequence needs no indentation. -/
  | blockEntry
  /-- Inside a flow collection. -/
  | flow
  deriving DecidableEq, Repr

/-- Name and tag of a node, as they are written. -/
structure Properties where
  /-- Name. -/
  anchor : Option (List Char)
  /-- Tag with the place where it is. -/
  tag : Option (WrittenTag × Nat)
  /-- Place of the first of them. -/
  start : Option Nat

/-- A computation that groups tokens. -/
abbrev Compose := StateT Composer (Except Fault)

namespace Compose

/-- The next token. -/
def current : Compose PlacedToken := do
  let composer ← get
  match composer.tokens, composer.fault with
  | token :: _, _ => return token
  | [], some fault => throw fault
  | [], none => return { token := .streamEnd, start := 0, stop := 0 }

/-- Takes the next token. -/
def next : Compose PlacedToken := do
  let token ← current
  modify fun composer => { composer with tokens := composer.tokens.tail }
  return token

/-- Whether the next token is one of some. -/
def atAny (tokens : List Token) : Compose Bool :=
  return tokens.contains (← current).token

/-- Adds a node. -/
def add (tag : Tag) (content : Content) (start : Nat) : Compose Nat := do
  let id := (← get).graph.size
  modify fun composer => { composer with graph := composer.graph.push { tag, content, start } }
  return id

/-- Adds the node that stands for a missing one. -/
def addEmpty (start : Nat) : Compose Nat :=
  add .null (.scalar []) start

/-- Reads the name and the tag of a node, in either order. -/
def properties : Compose Properties := do
  let first ← current
  match first.token with
  | .anchor name =>
    let _ ← next
    match (← current).token with
    | .tag written =>
      let tag ← next
      return { anchor := some name, tag := some (written, tag.start), start := some first.start }
    | _ => return { anchor := some name, tag := none, start := some first.start }
  | .tag written =>
    let _ ← next
    match (← current).token with
    | .anchor name =>
      let _ ← next
      return { anchor := some name, tag := some (written, first.start), start := some first.start }
    | _ => return { anchor := none, tag := some (written, first.start), start := some first.start }
  | _ => return { anchor := none, tag := none, start := none }

/-- The address of a tag. -/
def tagAddress (began : Nat) (written : WrittenTag) (start : Nat) : Compose (List Char) := do
  match written.handle with
  | none => return written.suffix
  | some handle =>
    match (← get).handles.find? fun (declared, _) => declared == handle with
    | some (_, leading) => return leading ++ written.suffix
    | none =>
      throw (Fault.during .parsing .node began (.undefinedHandle (String.ofList handle)) start)

/-- The address of the tag of a node, if it has one. -/
def writtenAddress (properties : Properties) : Compose (Option (List Char)) := do
  match properties.tag with
  | none => return none
  | some (written, start) => some <$> tagAddress (properties.start.getD start) written start

/-- The type of a node, which `inferred` gives if no tag tells it. -/
def nodeTag (address : Option (List Char)) (inferred : Tag) : Tag :=
  match address with
  | none => inferred
  | some address => if address == ['!'] then inferred else .ofAddress address

/-- The type of a scalar. -/
def scalarTag (address : Option (List Char)) (text : List CodePoint) ( isPlain : Bool) : Tag :=
  nodeTag address (if isPlain || address == some ['!'] then plainTag text else .text)

/-- Refuses the name of a node if another node has it. -/
def checkAnchor (anchor : Option (List Char)) (start : Nat) : Compose Unit := do
  match anchor with
  | none => return
  | some name =>
    let composer ← get
    match composer.anchors.find? fun (known, _) => known == name with
    | none => return
    | some (_, first) =>
      throw <| .complaint
        { context := some (.firstAnchor (String.ofList name))
          contextStart := some (composer.graph.start first), problem := .secondAnchor, start }

/-- Adds a node with a name. -/
def addNamed (anchor : Option (List Char)) (tag : Tag) (content : Content) (start : Nat) :
    Compose Nat := do
  checkAnchor anchor start
  let id ← add tag content start
  match anchor with
  | none => return id
  | some name =>
    modify fun composer => { composer with anchors := (name, id) :: composer.anchors }
    return id

/-- Sets the parts of a collection. -/
def fill (id : Nat) (content : Content) : Compose Nat := do
  modify fun composer => { composer with graph := composer.graph.setContent id content }
  return id

/-- The node that a name refers to. -/
def reference (name : List Char) (start : Nat) : Compose Nat := do
  match (← get).anchors.find? fun (known, _) => known == name with
  | some (_, id) => return id
  | none => throw (Fault.plain (.undefinedAlias (String.ofList name)) start)

mutual

/-- A node, within bounds on the steps and on the collections inside each other. -/
def node : (steps depth : Nat) → NodePlace → Compose Nat
  | 0, _, _ => throw .tooDeep
  | _ + 1, 0, _ => throw .tooDeep
  | steps + 1, depth + 1, place => do
    let first ← current
    match first.token with
    | .reference name =>
      let _ ← next
      reference name first.start
    | _ =>
      let properties ← properties
      let address ← writtenAddress properties
      let token ← current
      let start := properties.start.getD token.start
      let inBlock := place != .flow
      match token.token with
      | .scalar text isPlain =>
        let _ ← next
        addNamed properties.anchor (scalarTag address text isPlain) (.scalar text) start
      | .flowSequenceStart =>
        let id ← addNamed properties.anchor (nodeTag address .sequence) (.sequence []) start
        let _ ← next
        fill id (.sequence (← flowItems steps depth token.start true))
      | .flowMappingStart =>
        let id ← addNamed properties.anchor (nodeTag address .mapping) (.mapping []) start
        let _ ← next
        fill id (.mapping (← flowEntries steps depth token.start true))
      | found =>
        if found == .blockEntry && place == .blockEntry then
          let id ← addNamed properties.anchor (nodeTag address .sequence) (.sequence []) start
          fill id (.sequence (← openItems steps depth))
        else if found == .blockSequenceStart && inBlock then
          let id ← addNamed properties.anchor (nodeTag address .sequence) (.sequence []) start
          let _ ← next
          fill id (.sequence (← blockItems steps depth token.start))
        else if found == .blockMappingStart && inBlock then
          let id ← addNamed properties.anchor (nodeTag address .mapping) (.mapping []) start
          let _ ← next
          fill id (.mapping (← blockEntries steps depth token.start))
        else if properties.start.isSome then
          addNamed properties.anchor (scalarTag address [] true) (.scalar []) start
        else
          let subject := if inBlock then Subject.blockNode else .flowNode
          throw (Fault.during .parsing subject start
            (.expectedToken "the node content" found.name) token.start)

/-- A node, or the one that stands for it before one of some tokens. -/
def nodeUnless : (steps depth : Nat) → NodePlace → (tokens : List Token) → (start : Nat) →
    Compose Nat
  | 0, _, _, _, _ => throw .tooDeep
  | steps + 1, depth, place, tokens, start => do
    if ← atAny tokens then addEmpty start else node steps depth place

/-- The value of a key, before one of some tokens if it is missing. -/
def valueUnless : (steps depth : Nat) → NodePlace → (tokens : List Token) → Compose Nat
  | 0, _, _, _ => throw .tooDeep
  | steps + 1, depth, place, tokens => do
    let token ← current
    if token.token == .value then
      let _ ← next
      nodeUnless steps depth place tokens token.stop
    else addEmpty token.start

/-- The items of a block sequence. -/
def blockItems : (steps depth : Nat) → (began : Nat) → Compose (List Nat)
  | 0, _, _ => throw .tooDeep
  | steps + 1, depth, began => do
    let token ← current
    if token.token == .blockEntry then
      let _ ← next
      let item ← nodeUnless steps depth .block [.blockEntry, .blockEnd] token.stop
      return item :: (← blockItems steps depth began)
    else if token.token == .blockEnd then
      let _ ← next
      return []
    else
      throw (Fault.during .parsing .blockCollection began
        (.expectedToken "<block end>" token.token.name) token.start)

/-- The items of a sequence without indentation, which any other token ends. -/
def openItems : (steps depth : Nat) → Compose (List Nat)
  | 0, _ => throw .tooDeep
  | steps + 1, depth => do
    let token ← current
    if token.token == .blockEntry then
      let _ ← next
      let item ← nodeUnless steps depth .block [.blockEntry, .key, .value, .blockEnd] token.stop
      return item :: (← openItems steps depth)
    else return []

/-- The entries of a block mapping. -/
def blockEntries : (steps depth : Nat) → (began : Nat) → Compose (List (Nat × Nat))
  | 0, _, _ => throw .tooDeep
  | steps + 1, depth, began => do
    let token ← current
    if token.token == .key then
      let _ ← next
      let ends := [Token.key, .value, .blockEnd]
      let key ← nodeUnless steps depth .blockEntry ends token.stop
      let value ← valueUnless steps depth .blockEntry ends
      return (key, value) :: (← blockEntries steps depth began)
    else if token.token == .blockEnd then
      let _ ← next
      return []
    else
      throw (Fault.during .parsing .blockMapping began
        (.expectedToken "<block end>" token.token.name) token.start)

/-- The items of a flow sequence. A key among them makes a mapping with one entry. -/
def flowItems : (steps depth : Nat) → (began : Nat) → ( isFirst : Bool) → Compose (List Nat)
  | 0, _, _, _ => throw .tooDeep
  | steps + 1, depth, began, isFirst => do
    let token ← current
    if token.token == .flowSequenceEnd then
      let _ ← next
      return []
    else
      if !isFirst then
        if token.token == .flowEntry then
          let _ ← next
        else
          throw (Fault.during .parsing .flowSequence began
            (.expectedFlow "',' or ']'" token.token.name) token.start)
      let token ← current
      if token.token == .flowSequenceEnd then
        let _ ← next
        return []
      else
        let item ← if token.token == .key then flowPair steps depth else node steps depth .flow
        return item :: (← flowItems steps depth began false)

/-- A mapping with one entry as the item of a flow sequence. -/
def flowPair : (steps depth : Nat) → Compose Nat
  | 0, _ => throw .tooDeep
  | _ + 1, 0 => throw .tooDeep
  | steps + 1, depth + 1 => do
    let token ← next
    let id ← add .mapping (.mapping []) token.start
    let key ← nodeUnless steps depth .flow [.value, .flowEntry, .flowSequenceEnd] token.stop
    let value ← valueUnless steps depth .flow [.flowEntry, .flowSequenceEnd]
    fill id (.mapping [(key, value)])

/-- The entries of a flow mapping. -/
def flowEntries : (steps depth : Nat) → (began : Nat) → ( isFirst : Bool) →
    Compose (List (Nat × Nat))
  | 0, _, _, _ => throw .tooDeep
  | steps + 1, depth, began, isFirst => do
    let token ← current
    if token.token == .flowMappingEnd then
      let _ ← next
      return []
    else
      if !isFirst then
        if token.token == .flowEntry then
          let _ ← next
        else
          throw (Fault.during .parsing .flowMapping began
            (.expectedFlow "',' or '\x7d'" token.token.name) token.start)
      let token ← current
      if token.token == .flowMappingEnd then
        let _ ← next
        return []
      else if token.token == .key then
        let _ ← next
        let key ← nodeUnless steps depth .flow [.value, .flowEntry, .flowMappingEnd] token.stop
        let value ← valueUnless steps depth .flow [.flowEntry, .flowMappingEnd]
        return (key, value) :: (← flowEntries steps depth began false)
      else
        let key ← node steps depth .flow
        let value ← addEmpty (← current).start
        return (key, value) :: (← flowEntries steps depth began false)

end

/-- A node of a document of this many tokens. -/
def rootNode : Compose Nat := do
  node (4 * (← get).tokens.length + 16) depthLimit .block

/-- Adds the handle of a directive. -/
def declareHandle (handle leading : List Char) (start : Nat) : Compose Unit := do
  let composer ← get
  if composer.handles.any fun (declared, _) => declared == handle then
    throw (Fault.plain (.duplicateHandle (String.ofList handle)) start)
  set { composer with handles := (handle, leading) :: composer.handles }

/-- Reads directives, within a bound on their number. -/
def readDirectives : (steps : Nat) → (versionKnown : Bool) → Compose Unit
  | 0, _ => return
  | steps + 1, versionKnown => do
    let token ← current
    match token.token with
    | .directive directive =>
      let _ ← next
      match directive with
      | .version major _ =>
        if versionKnown then throw (Fault.plain .duplicateVersion token.start)
        if major != 1 then throw (Fault.plain .incompatibleVersion token.start)
        readDirectives steps true
      | .tagHandle handle leading =>
        declareHandle handle leading token.start
        readDirectives steps versionKnown
      | .unknown => readDirectives steps versionKnown
    | _ => return

/-- Reads the directives and the mark before a document. -/
def documentStart : Compose Unit := do
  modify fun composer => { composer with handles := [] }
  readDirectives (← get).tokens.length false
  modify fun composer => { composer with handles := composer.handles ++ defaultHandles }
  let token ← current
  if token.token != .documentStart then
    throw (Fault.plain (.expectedToken "'<document start>'" token.token.name) token.start)
  let _ ← next

private def isDirective : Token → Bool
  | .directive _ => true
  | _ => false

/-- The root of the first document; nothing if there is no document. -/
def firstDocument : Compose (Option Nat) := do
  let token ← current
  if token.token == .streamEnd then return none
  else if token.token == .documentStart || isDirective token.token then
    documentStart
    let token ← current
    if isDirective token.token ||
        [Token.documentStart, .documentEnd, .streamEnd].contains token.token then
      some <$> addEmpty token.start
    else some <$> rootNode
  else some <$> rootNode

/-- Moves on over marks after a document, within a bound on their number. -/
def skipDocumentEnds : (steps : Nat) → Compose Unit
  | 0 => return
  | steps + 1 => do
    if (← current).token == .documentEnd then
      let _ ← next
      skipDocumentEnds steps

/-- Refuses a second document. -/
def requireStreamEnd (root : Option Nat) : Compose Unit := do
  skipDocumentEnds ((← get).tokens.length + 1)
  let token ← current
  if token.token != .streamEnd then
    documentStart
    let graph := (← get).graph
    throw <| .complaint
      { context := some .singleDocument, contextStart := root.map graph.start
        problem := .anotherDocument, start := token.start }

/-- The root of the only document. -/
def singleDocument : Compose (Option Nat) := do
  let root ← firstDocument
  requireStreamEnd root
  return root

end Compose

/-- The nodes of a document, with the number of the root; there is no root if there is no
document. -/
def compose (source : Source) : Except Fault (Option Nat × Graph) := do
  let (root, composer) ← Compose.singleDocument.run (.initial (tokenize source))
  return (root, composer.graph)

end BundleLint.Yaml
