import BundleLint.Proofs.Yaml.Lexer
import BundleLint.Yaml.Compose

/-!
# Faults of composing

Grouping the tokens of a document breaks off with a fault that is reported, or with the fault that
ends the tokens. A text therefore has reported faults only up to its node graph.
-/

namespace BundleLint.Yaml

/-- The tokens end with a fault, or with the document. -/
@[grind =]
def Composer.EndsWith (ending : Option Fault) (composer : Composer) : Prop :=
  composer.fault = ending

/-- A computation leaves the end of the tokens alone and breaks off with its faults only. -/
abbrev Composes {Result : Type} (ending : Option Fault) (computation : Compose Result) : Prop :=
  Contained (Composer.EndsWith ending) (BreaksWith ending) computation

namespace Compose

variable {ending : Option Fault}

/-! ## Single nodes -/

/-- The fault that ends the tokens comes up when a token beyond them is asked for. -/
@[grind ←]
theorem current_composes : Composes ending current := by
  unfold current
  refine Contained.get_bind fun composer kept => ?_
  split
  · exact Contained.pure _
  · rename_i fault _ fault_eq
    exact Contained.throw (.inr (kept.symm.trans fault_eq))
  · exact Contained.pure _

@[grind ←]
theorem next_composes : Composes ending next := by
  unfold next
  grind

@[grind ←]
theorem atAny_composes (tokens : List Token) : Composes ending (atAny tokens) := by
  unfold atAny
  grind

@[grind ←]
theorem add_composes (tag : Tag) (content : Content) (start : Nat) :
    Composes ending (add tag content start) := by
  unfold add
  grind

@[grind ←]
theorem addEmpty_composes (start : Nat) : Composes ending (addEmpty start) := by
  unfold addEmpty
  grind

@[grind ←]
theorem properties_composes : Composes ending properties := by
  unfold properties
  refine current_composes.bind fun first => ?_
  split
  · refine next_composes.bind fun _ => ?_
    grind
  · refine next_composes.bind fun _ => ?_
    grind
  · exact Contained.pure _

@[grind ←]
theorem tagAddress_composes (began : Nat) (written : WrittenTag) (start : Nat) :
    Composes ending (tagAddress began written start) := by
  unfold tagAddress
  grind

@[grind ←]
theorem writtenAddress_composes (properties : Properties) :
    Composes ending (writtenAddress properties) := by
  unfold writtenAddress
  grind

@[grind ←]
theorem checkAnchor_composes (anchor : Option (List Char)) (start : Nat) :
    Composes ending (checkAnchor anchor start) := by
  unfold checkAnchor
  grind

@[grind ←]
theorem addNamed_composes (anchor : Option (List Char)) (tag : Tag) (content : Content)
    (start : Nat) : Composes ending (addNamed anchor tag content start) := by
  unfold addNamed
  grind

@[grind ←]
theorem fill_composes (id : Nat) (content : Content) : Composes ending (fill id content) := by
  unfold fill
  grind

@[grind ←]
theorem reference_composes (name : List Char) (start : Nat) :
    Composes ending (reference name start) := by
  unfold reference
  grind

/-! ## Nodes with their parts -/

/-- Every function on nodes is contained within a bound on its steps. -/
structure NodesCompose (ending : Option Fault) (steps : Nat) : Prop where
  node : ∀ depth place, Composes ending (node steps depth place)
  nodeUnless : ∀ depth place tokens start,
    Composes ending (nodeUnless steps depth place tokens start)
  valueUnless : ∀ depth place tokens, Composes ending (valueUnless steps depth place tokens)
  blockItems : ∀ depth began, Composes ending (blockItems steps depth began)
  openItems : ∀ depth, Composes ending (openItems steps depth)
  blockEntries : ∀ depth began, Composes ending (blockEntries steps depth began)
  flowItems : ∀ depth began ( isFirst : Bool),
    Composes ending (flowItems steps depth began isFirst)
  flowPair : ∀ depth, Composes ending (flowPair steps depth)
  flowEntries : ∀ depth began ( isFirst : Bool),
    Composes ending (flowEntries steps depth began isFirst)

/-- Beyond the bound on the steps, the nesting counts as too deep. -/
theorem nodesCompose_zero : NodesCompose ending 0 := by
  constructor
  all_goals
    intros
    simp only [node, nodeUnless, valueUnless, blockItems, openItems, blockEntries, flowItems,
      flowPair, flowEntries]
    exact Contained.throw breaksWith_tooDeep

section Step

variable {steps : Nat} (below : NodesCompose ending steps)

include below

theorem node_succ (depth : Nat) (place : NodePlace) :
    Composes ending (node (steps + 1) depth place) := by
  have flowItems := below.flowItems
  have flowEntries := below.flowEntries
  have openItems := below.openItems
  have blockItems := below.blockItems
  have blockEntries := below.blockEntries
  cases depth with
  | zero =>
      simp only [node]
      exact Contained.throw breaksWith_tooDeep
  | succ depth =>
      unfold Compose.node
      refine current_composes.bind fun first => ?_
      split
      · grind
      · refine properties_composes.bind fun properties => ?_
        refine (writtenAddress_composes properties).bind fun address => ?_
        refine current_composes.bind fun token => ?_
        dsimp only
        split
        · grind
        · grind
        · grind
        · grind

theorem nodeUnless_succ (depth : Nat) (place : NodePlace) (tokens : List Token) (start : Nat) :
    Composes ending (nodeUnless (steps + 1) depth place tokens start) := by
  have node := below.node
  unfold nodeUnless
  grind

theorem valueUnless_succ (depth : Nat) (place : NodePlace) (tokens : List Token) :
    Composes ending (valueUnless (steps + 1) depth place tokens) := by
  have nodeUnless := below.nodeUnless
  unfold valueUnless
  grind

theorem blockItems_succ (depth began : Nat) :
    Composes ending (blockItems (steps + 1) depth began) := by
  have nodeUnless := below.nodeUnless
  have blockItems := below.blockItems
  unfold Compose.blockItems
  grind

theorem openItems_succ (depth : Nat) : Composes ending (openItems (steps + 1) depth) := by
  have nodeUnless := below.nodeUnless
  have openItems := below.openItems
  unfold Compose.openItems
  grind

theorem blockEntries_succ (depth began : Nat) :
    Composes ending (blockEntries (steps + 1) depth began) := by
  have nodeUnless := below.nodeUnless
  have valueUnless := below.valueUnless
  have blockEntries := below.blockEntries
  unfold Compose.blockEntries
  grind

theorem flowItems_succ (depth began : Nat) ( isFirst : Bool) :
    Composes ending (flowItems (steps + 1) depth began isFirst) := by
  have node := below.node
  have flowPair := below.flowPair
  have flowItems := below.flowItems
  unfold Compose.flowItems
  grind

theorem flowPair_succ (depth : Nat) : Composes ending (flowPair (steps + 1) depth) := by
  have nodeUnless := below.nodeUnless
  have valueUnless := below.valueUnless
  cases depth with
  | zero =>
      simp only [flowPair]
      exact Contained.throw breaksWith_tooDeep
  | succ depth =>
      unfold flowPair
      grind

theorem flowEntries_succ (depth began : Nat) ( isFirst : Bool) :
    Composes ending (flowEntries (steps + 1) depth began isFirst) := by
  have node := below.node
  have nodeUnless := below.nodeUnless
  have valueUnless := below.valueUnless
  have flowEntries := below.flowEntries
  unfold Compose.flowEntries
  grind

end Step

/-- The functions on nodes call each other with one step less. -/
theorem nodesCompose (steps : Nat) : NodesCompose ending steps := by
  induction steps with
  | zero => exact nodesCompose_zero
  | succ steps below =>
      exact
        { node := node_succ below
          nodeUnless := nodeUnless_succ below
          valueUnless := valueUnless_succ below
          blockItems := blockItems_succ below
          openItems := openItems_succ below
          blockEntries := blockEntries_succ below
          flowItems := flowItems_succ below
          flowPair := flowPair_succ below
          flowEntries := flowEntries_succ below }

/-! ## Documents -/

@[grind ←]
theorem rootNode_composes : Composes ending rootNode := by
  unfold rootNode
  exact Contained.get_bind fun _ _ => (nodesCompose _).node _ _

@[grind ←]
theorem declareHandle_composes (handle leading : List Char) (start : Nat) :
    Composes ending (declareHandle handle leading start) := by
  unfold declareHandle
  grind

@[grind ←]
theorem readDirectives_composes (steps : Nat) (versionKnown : Bool) :
    Composes ending (readDirectives steps versionKnown) := by
  induction steps generalizing versionKnown with
  | zero => exact Contained.pure _
  | succ steps ih =>
      unfold readDirectives
      refine current_composes.bind fun token => ?_
      split
      · refine next_composes.bind fun _ => ?_
        split
        · grind
        · grind
        · exact ih versionKnown
      · exact Contained.pure _

@[grind ←]
theorem documentStart_composes : Composes ending documentStart := by
  unfold documentStart
  refine Contained.bind (by grind) fun _ => ?_
  refine Contained.get_bind fun composer _ => ?_
  refine (readDirectives_composes _ false).bind fun _ => ?_
  refine Contained.bind (by grind) fun _ => ?_
  grind

@[grind ←]
theorem firstDocument_composes : Composes ending firstDocument := by
  unfold firstDocument
  grind

@[grind ←]
theorem skipDocumentEnds_composes (steps : Nat) : Composes ending (skipDocumentEnds steps) := by
  induction steps with
  | zero => exact Contained.pure _
  | succ steps ih =>
      unfold skipDocumentEnds
      grind

@[grind ←]
theorem requireStreamEnd_composes (root : Option Nat) :
    Composes ending (requireStreamEnd root) := by
  unfold requireStreamEnd
  grind

@[grind ←]
theorem singleDocument_composes : Composes ending singleDocument := by
  unfold singleDocument
  grind

end Compose

/-- A document that cannot be composed has a reported fault, or its text cannot be had. -/
theorem compose_breaksWith {source : Source} {fault : Fault}
    (failed : compose source = .error fault) : BreaksWith source.ending fault := by
  unfold compose at failed
  have contained := Compose.singleDocument_composes (.initial (tokenize source)) rfl
  rcases error_of_bind failed with broken | ⟨ended, -, returned⟩
  · rw [broken] at contained
    rcases contained with reported | ends
    · exact .inl reported
    · exact tokenize_breaksWith ends
  · cases returned

/-- A text that cannot be composed has a reported fault. -/
theorem compose_isReported {text : List Char} {fault : Fault}
    (failed : compose { text, ending := none } = .error fault) : fault.IsReported := by
  rcases compose_breaksWith failed with reported | ends
  · exact reported
  · cases ends

end BundleLint.Yaml
