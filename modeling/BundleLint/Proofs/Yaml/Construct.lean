import BundleLint.Proofs.Yaml.Scalar

/-!
# Faults of building values

Building the values of a node graph breaks off with a fault that is reported, or with that of a
node whose text does not fit its type. The nodes change on the way, because merging moves entries
and settles keys, but texts and the types that a text can fail to fit are those of the given graph.
-/

namespace BundleLint.Yaml

/-- A node as it may come to be from another one: its kind and its text remain, and of types only
that of a stand-in key changes. -/
structure Node.StemsFrom (node origin : Node) : Prop where
  tag : node.tag = origin.tag ∨ (origin.tag = .standIn ∧ node.tag = .text)
  kind : node.content.kind = origin.content.kind
  text : ∀ text, node.content = .scalar text → origin.content = .scalar text

/-- A graph of which every node stems from the one with its number in another graph. -/
def Graph.StemsFrom (graph origin : Graph) : Prop :=
  ∀ id : Nat, Option.Rel Node.StemsFrom graph[id]? origin[id]?

/-- The text that a node is read from: its own, or that of another node if it is a mapping, which
its stand-in key says. Merging can give a mapping a stand-in key, so that node may be any. -/
inductive Graph.Tells (graph : Graph) : Nat → List CodePoint → Prop
  | own {id : Nat} {node : Node} {text : List CodePoint} (found : graph[id]? = some node)
      (content_eq : node.content = .scalar text) : Tells graph id text
  | missing {id : Nat} (absent : graph[id]? = none) : Tells graph id []
  | standIn {id value : Nat} {node : Node} {entries : List (Nat × Nat)} {text : List CodePoint}
      (found : graph[id]? = some node) (content_eq : node.content = .mapping entries)
      (told : Tells graph value text) : Tells graph id text

/-- A graph has a node that is read from a text that does not fit its type. -/
def Graph.HasMisfit (graph : Graph) (fault : Fault) : Prop :=
  ∃ (id : Nat) (node : Node) (text : List CodePoint),
    graph[id]? = some node ∧ graph.Tells id text ∧ Misfit node.tag text fault

/-- The faults with which the values of a graph fail to be built. -/
def FailsWith (graph : Graph) (fault : Fault) : Prop :=
  fault.IsReported ∨ graph.HasMisfit fault

theorem Node.StemsFrom.refl (node : Node) : node.StemsFrom node :=
  ⟨.inl rfl, rfl, fun _ => id⟩

theorem Node.StemsFrom.trans {node middle origin : Node} (later : node.StemsFrom middle)
    (earlier : middle.StemsFrom origin) : node.StemsFrom origin := by
  have text : ∀ text, node.content = .scalar text → origin.content = .scalar text :=
    fun text text_eq => earlier.text text (later.text text text_eq)
  refine ⟨?_, later.kind.trans earlier.kind, text⟩
  rcases later.tag with same | ⟨standIn, settled⟩
  · rw [same]
    exact earlier.tag
  · rcases earlier.tag with kept | ⟨-, changed⟩
    · exact .inr ⟨kept.symm.trans standIn, settled⟩
    · rw [changed] at standIn
      cases standIn

namespace Graph.StemsFrom

variable {graph origin : Graph}

theorem refl (graph : Graph) : graph.StemsFrom graph := by
  intro id
  cases graph[id]? with
  | none => exact .none
  | some node => exact .some (.refl node)

theorem of_some (stems : graph.StemsFrom origin) {id : Nat} {node : Node}
    (found : graph[id]? = some node) :
    ∃ source, origin[id]? = some source ∧ node.StemsFrom source := by
  have here := stems id
  rw [found] at here
  cases source_eq : origin[id]? with
  | none =>
      rw [source_eq] at here
      cases here
  | some source =>
      rw [source_eq] at here
      cases here with
      | some stem => exact ⟨source, rfl, stem⟩

theorem of_none (stems : graph.StemsFrom origin) {id : Nat} (absent : graph[id]? = none) :
    origin[id]? = none := by
  have here := stems id
  rw [absent] at here
  cases source_eq : origin[id]? with
  | none => rfl
  | some source =>
      rw [source_eq] at here
      cases here

theorem modify {change : Node → Node} (stems : graph.StemsFrom origin) {id : Nat}
    (changes : ∀ node, graph[id]? = some node → (change node).StemsFrom node) :
    Graph.StemsFrom (graph.modify id change) origin := by
  intro other
  rw [Array.getElem?_modify]
  split
  · rename_i same
    subst same
    cases found : graph[id]? with
    | none =>
        rw [stems.of_none found]
        exact .none
    | some before =>
        obtain ⟨source, source_eq, stem⟩ := stems.of_some found
        rw [source_eq]
        exact .some ((changes before found).trans stem)
  · exact stems other

theorem kind_eq (stems : graph.StemsFrom origin) {id : Nat} (isMapping : graph.kind id = .mapping) :
    origin.kind id = .mapping := by
  unfold Graph.kind at isMapping ⊢
  split at isMapping
  · rename_i node found
    obtain ⟨source, source_eq, stem⟩ := stems.of_some found
    rw [source_eq]
    exact stem.kind.symm.trans isMapping
  · cases isMapping

/-- Merging sets the entries of mappings only. -/
theorem setContent (stems : graph.StemsFrom origin) {id : Nat}
    (isMapping : origin.kind id = .mapping) (entries : List (Nat × Nat)) :
    (graph.setContent id (.mapping entries)).StemsFrom origin := by
  refine stems.modify fun node found => ?_
  obtain ⟨source, source_eq, stem⟩ := stems.of_some found
  have source_mapping : source.content.kind = .mapping := by
    simpa [Graph.kind, source_eq] using isMapping
  refine ⟨.inl rfl, (stem.kind.trans source_mapping).symm, ?_⟩
  rintro text ⟨⟩

theorem setTag (stems : graph.StemsFrom origin) {id : Nat}
    (isStandIn : graph.tag? id = some .standIn) : (graph.setTag id .text).StemsFrom origin := by
  refine stems.modify fun node found => ?_
  have node_tag : node.tag = .standIn := by
    simpa [Graph.tag?, found] using isStandIn
  exact ⟨.inr ⟨node_tag, rfl⟩, rfl, fun _ text_eq => text_eq⟩

end Graph.StemsFrom

/-- A builder works on a graph that stems from another one. -/
@[grind =]
def Builder.Within (origin : Graph) (builder : Builder) : Prop :=
  builder.graph.StemsFrom origin

/-- A computation keeps the nodes of a graph and fails with its faults only. -/
abbrev Builds {Result : Type} (origin : Graph) (computation : Build Result) : Prop :=
  Contained (Builder.Within origin) (FailsWith origin) computation

/-- The node that stands for a missing one. -/
def absentNode : Node :=
  { tag := .null, content := .scalar [], start := 0 }

/-- What a builder finds under a number: a node that stems from the one there, if there is one. -/
def Graph.Shows (origin : Graph) (id : Nat) (node : Node) : Prop :=
  (∃ source, origin[id]? = some source ∧ node.StemsFrom source) ∨
    (origin[id]? = none ∧ node = absentNode)

section Faults

variable {origin : Graph}

@[grind .]
theorem failsWith_plain (problem : Problem) (start : Nat) :
    FailsWith origin (.plain problem start) :=
  .inl trivial

@[grind .]
theorem failsWith_during (activity : Activity) (subject : Subject) (began : Nat)
    (problem : Problem) (start : Nat) :
    FailsWith origin (.during activity subject began problem start) :=
  .inl trivial

@[grind .]
theorem failsWith_tooDeep : FailsWith origin .tooDeep :=
  .inl trivial

/-- A misfit of what a builder finds is a misfit of the graph. -/
theorem Graph.Shows.failsWith {id : Nat} {node : Node} {text : List CodePoint} {fault : Fault}
    (shows_node : origin.Shows id node) (tells : origin.Tells id text)
    (misfit : Misfit node.tag text fault) : FailsWith origin fault := by
  rcases shows_node with ⟨source, source_eq, stem⟩ | ⟨-, rfl⟩
  · have tag_eq : node.tag = source.tag := by
      rcases stem.tag with same | ⟨-, changed⟩
      · exact same
      · rw [changed] at misfit
        cases misfit
    rw [tag_eq] at misfit
    exact .inr ⟨id, source, text, source_eq, tells, misfit⟩
  · cases misfit

/-- The text of what a builder finds is the text in the graph. -/
theorem Graph.Shows.tells {id : Nat} {node : Node} {text : List CodePoint}
    (shows_node : origin.Shows id node) (text_eq : node.content = .scalar text) :
    origin.Tells id text := by
  rcases shows_node with ⟨source, source_eq, stem⟩ | ⟨absent, rfl⟩
  · exact .own source_eq (stem.text text text_eq)
  · obtain rfl : [] = text := Content.scalar.inj text_eq
    exact .missing absent

/-- A mapping is read from the text of the value of a key. -/
theorem Graph.Shows.tells_of_mapping {id value : Nat} {node : Node} {entries : List (Nat × Nat)}
    {text : List CodePoint} (shows_node : origin.Shows id node)
    (content_eq : node.content = .mapping entries) (told : origin.Tells value text) :
    origin.Tells id text := by
  rcases shows_node with ⟨source, source_eq, stem⟩ | ⟨-, rfl⟩
  · have same := stem.kind
    rw [content_eq] at same
    cases source_content : source.content with
    | scalar own =>
        rw [source_content] at same
        cases same
    | sequence items =>
        rw [source_content] at same
        cases same
    | mapping own => exact .standIn source_eq source_content told
  · cases content_eq

end Faults

namespace Build

variable {origin : Graph}

/-- Looking at a node changes nothing and shows what stems from the graph. -/
theorem node_run {builder : Builder} (kept : builder.Within origin) (id : Nat) :
    ∃ node, (Build.node id).run builder = .ok (node, builder) ∧ origin.Shows id node := by
  cases found : builder.graph[id]? with
  | none =>
      have run_eq : (Build.node id).run builder = .ok (absentNode, builder) := by
        simp [Build.node, found]
        rfl
      exact ⟨absentNode, run_eq, .inr ⟨kept.of_none found, rfl⟩⟩
  | some node =>
      have run_eq : (Build.node id).run builder = .ok (node, builder) := by
        simp [Build.node, found]
        rfl
      exact ⟨node, run_eq, .inl (kept.of_some found)⟩

@[grind ←]
theorem node_bind {Result : Type} {id : Nat} {next : Node → Build Result}
    (next_builds : ∀ node, origin.Shows id node → Builds origin (next node)) :
    Builds origin (node id >>= next) := by
  intro builder kept
  obtain ⟨found, run_eq, shows_node⟩ := node_run kept id
  rw [run_bind_of_ok run_eq]
  exact next_builds found shows_node builder kept

/-- The text of a scalar is its own; looking for it changes nothing and fails with a reported
fault. -/
theorem scalarText_run {builder : Builder} (kept : builder.Within origin) (steps id : Nat) :
    match (scalarText steps id).run builder with
    | .ok (text, after) => after = builder ∧ origin.Tells id text
    | .error fault => fault.IsReported := by
  induction steps generalizing id with
  | zero => trivial
  | succ steps ih =>
      obtain ⟨found, run_eq, shows_node⟩ := node_run kept id
      unfold scalarText
      have get_eq : (get : Build Builder).run builder = .ok (builder, builder) := rfl
      rw [run_bind_of_ok run_eq, run_bind_of_ok get_eq]
      cases content_eq : found.content with
      | scalar text => exact ⟨rfl, shows_node.tells content_eq⟩
      | sequence items => trivial
      | mapping entries =>
          dsimp only
          cases chosen : entries.find? fun entry => builder.graph.tag? entry.1 == some .standIn with
          | none => trivial
          | some entry =>
              have inner := ih entry.2
              dsimp only
              cases value_run : (scalarText steps entry.2).run builder with
              | error fault =>
                  rw [value_run] at inner
                  exact inner
              | ok ended =>
                  rw [value_run] at inner
                  exact ⟨inner.1, shows_node.tells_of_mapping content_eq inner.2⟩

@[grind ←]
theorem keep_builds (id : Nat) (part : Part) : Builds origin (keep id part) := by
  unfold keep
  grind

@[grind ←]
theorem beginEmpty_builds (id : Nat) (part : Part) : Builds origin (beginEmpty id part) := by
  unfold beginEmpty
  grind

/-- A part that is read from the text of a node fails as the reading does. -/
theorem leaf_builds {id : Nat} {read : List CodePoint → Except Fault Part}
    (reads : ∀ text fault, origin.Tells id text → read text = .error fault →
      FailsWith origin fault) : Builds origin (leaf id read) := by
  unfold leaf
  intro current kept
  have told := scalarText_run kept depthLimit id
  cases text_run : (scalarText depthLimit id).run current with
  | error fault =>
      rw [text_run] at told
      rw [StateT.run_bind, text_run]
      exact .inl told
  | ok ended =>
      obtain ⟨text, after⟩ := ended
      rw [text_run] at told
      obtain ⟨rfl, tells⟩ := told
      rw [run_bind_of_ok text_run]
      have read_builds : Builds origin (liftM (read text) : Build Part) :=
        Contained.lift fun fault => reads text fault tells
      exact (read_builds.bind fun part => keep_builds id part) _ kept

theorem atom_builds {id : Nat} {read : List CodePoint → Except Fault Value}
    (reads : ∀ text fault, origin.Tells id text → read text = .error fault →
      FailsWith origin fault) : Builds origin (atom id read) := by
  refine leaf_builds fun text fault tells failed => ?_
  exact reads text fault tells (error_of_map failed)

theorem realPart_fails {text : List CodePoint} {fault : Fault}
    (failed : realPart text = .error fault) : fault.IsReported ∨ Misfit .float text fault := by
  unfold realPart at failed
  split at failed
  · cases failed
  · exact Scalar.readFloat_fails (error_of_map failed)

/-- Where the value of a node begins, a text that does not fit the type of the node is one of the
graph. -/
@[grind ←]
theorem start_builds (id : Nat) : Builds origin (start id) := by
  unfold start
  refine Contained.get_bind fun builder _ => ?_
  split
  · exact Contained.pure _
  · refine node_bind fun node shows_node => ?_
    -- Only four types have texts that do not fit; those of the others give values or are reported.
    have fails : ∀ text fault, origin.Tells id text →
        fault.IsReported ∨ Misfit node.tag text fault → FailsWith origin fault := by
      rintro text fault tells (reported | misfit)
      · exact .inl reported
      · exact shows_node.failsWith tells misfit
    cases tag_eq : node.tag with
    | null =>
        refine atom_builds fun text fault tells failed => ?_
        cases failed
    | text =>
        refine atom_builds fun text fault tells failed => ?_
        cases failed
    | bool =>
        rw [tag_eq] at fails
        refine atom_builds fun text fault tells failed => ?_
        exact fails text fault tells (.inr (Scalar.readBool_fails (error_of_map failed)))
    | int =>
        rw [tag_eq] at fails
        refine atom_builds fun text fault tells failed => ?_
        exact fails text fault tells (Scalar.readInt_fails (error_of_map failed))
    | float =>
        rw [tag_eq] at fails
        refine leaf_builds fun text fault tells failed => ?_
        exact fails text fault tells (realPart_fails failed)
    | timestamp =>
        rw [tag_eq] at fails
        refine atom_builds fun _ fault _ failed => ?_
        rcases timestamp_fails failed with reported | ⟨text, content_eq, misfit⟩
        · exact .inl reported
        · exact fails text fault (shows_node.tells content_eq) (.inr misfit)
    | binary =>
        refine atom_builds fun text fault _ failed => ?_
        exact .inl (Scalar.readBinary_fails (error_of_map failed))
    | sequence => exact beginEmpty_builds id _
    | mapping => exact beginEmpty_builds id _
    | set => exact beginEmpty_builds id _
    | orderedMap => exact beginEmpty_builds id _
    | pairs => exact beginEmpty_builds id _
    | merge => exact Contained.throw (failsWith_plain _ _)
    | standIn => exact Contained.throw (failsWith_plain _ _)
    | other address => exact Contained.throw (failsWith_plain _ _)

/-! ## Merging -/

@[grind ←]
theorem refuse_builds {Result : Type} (subject : Subject) (collection : Nat) (problem : Problem)
    (culprit : Nat) : Builds origin (refuse subject collection problem culprit : Build Result) := by
  unfold refuse
  grind

/-- Nothing comes after a refusal. -/
theorem refuse_bind {Result Next : Type} (subject : Subject) (collection : Nat) (problem : Problem)
    (culprit : Nat) (next : Result → Build Next) :
    Builds origin ((refuse subject collection problem culprit : Build Result) >>= next) := by
  unfold refuse
  rw [bind_assoc]
  exact Contained.get_bind fun _ _ => Contained.throw_bind (failsWith_during _ _ _ _ _)

@[grind ←]
theorem settleKeys_builds (entries : List (Nat × Nat)) : Builds origin (settleKeys entries) := by
  unfold settleKeys
  refine Contained.update fun builder kept => ?_
  have settled : ∀ graph : Graph, graph.StemsFrom origin →
      (entries.foldl (fun (graph : Graph) entry =>
        if graph.tag? entry.1 == some .standIn then graph.setTag entry.1 .text else graph)
        graph).StemsFrom origin := by
    induction entries with
    | nil => exact fun _ stems => stems
    | cons entry entries ih =>
        intro graph stems
        refine ih _ ?_
        dsimp only
        split
        · rename_i isStandIn
          exact stems.setTag (by simpa using isStandIn)
        · exact stems
  exact settled builder.graph kept

theorem setEntries_builds {id : Nat} (isMapping : origin.kind id = .mapping)
    (entries : List (Nat × Nat)) : Builds origin (setEntries id entries) := by
  unfold setEntries
  exact Contained.update fun builder kept => kept.setContent isMapping entries

/-- Merging follows the merge keys of mappings into mappings only. -/
theorem mergeFrom_builds (steps depth : Nat) {id : Nat} (isMapping : origin.kind id = .mapping)
    (index : Nat) (merged : List (Nat × Nat)) :
    Builds origin (mergeFrom steps depth id index merged) := by
  induction steps generalizing depth id index merged with
  | zero => exact Contained.throw failsWith_tooDeep
  | succ steps ih =>
      obtain _ | depth := depth
      · exact Contained.throw failsWith_tooDeep
      unfold mergeFrom
      refine Contained.get_bind fun builder kept => ?_
      refine (settleKeys_builds _).bind fun _ => ?_
      dsimp only
      split
      · split
        · exact setEntries_builds isMapping _
        · exact Contained.pure _
      · rename_i source after _
        refine (setEntries_builds isMapping _).bind fun _ => ?_
        split
        · rename_i content_eq
          obtain ⟨node, found, node_eq⟩ := Option.map_eq_some_iff.mp content_eq
          have source_mapping : origin.kind source = .mapping :=
            kept.kind_eq (by simp [Graph.kind, found, node_eq, Content.kind])
          refine (ih depth source_mapping 0 []).bind fun _ => ?_
          exact Contained.get_bind fun _ _ => ih _ isMapping _ _
        · refine Contained.bind ?_ fun groups => ih _ isMapping _ _
          refine Contained.mapM fun item => ?_
          refine Contained.get_bind fun current current_kept => ?_
          split
          · exact refuse_bind _ _ _ _ _
          · rename_i item_mapping
            have is_mapping := current_kept.kind_eq (by simpa using item_mapping)
            refine (ih depth is_mapping 0 []).bind fun _ => ?_
            grind
        · exact refuse_builds _ _ _ _

theorem merge_builds {id : Nat} (isMapping : origin.kind id = .mapping) :
    Builds origin (merge id) := by
  unfold merge
  exact Contained.get_bind fun _ _ => mergeFrom_builds _ _ isMapping _ _

/-! ## Collections -/

@[grind ←]
theorem key_builds (id entry : Nat) : Builds origin (key id entry) := by
  unfold key
  grind

@[grind ←]
theorem entries_builds (id : Nat) : Builds origin (entries id) := by
  unfold entries
  refine node_bind fun node shows_node => ?_
  split
  · rename_i held content_eq
    have isMapping : origin.kind id = .mapping := by
      rcases shows_node with ⟨source, source_eq, stem⟩ | ⟨-, rfl⟩
      · have same := stem.kind
        rw [content_eq] at same
        simpa [Graph.kind, source_eq, Content.kind] using same.symm
      · cases content_eq
    refine (merge_builds isMapping).bind fun _ => ?_
    refine Contained.get_bind fun builder _ => ?_
    refine Contained.bind (Contained.foldlM (fun built entry => ?_) []) fun built => ?_
    · refine (key_builds id entry.1).bind fun found => ?_
      grind
    · exact Contained.pure _
  · exact Contained.throw (failsWith_plain _ _)

@[grind ←]
theorem items_builds (id : Nat) : Builds origin (items id) := by
  unfold items
  refine node_bind fun node _ => ?_
  split
  · refine (Contained.forM start_builds).bind fun _ => ?_
    exact Contained.pure _
  · exact Contained.throw (failsWith_plain _ _)

@[grind ←]
theorem pair_builds (subject : Subject) (id item : Nat) : Builds origin (pair subject id item) := by
  unfold pair
  grind

@[grind ←]
theorem pairs_builds (subject : Subject) (id : Nat) : Builds origin (pairs subject id) := by
  unfold pairs
  refine node_bind fun node _ => ?_
  split
  · exact Contained.mapM (pair_builds subject id)
  · exact refuse_builds _ _ _ _

@[grind ←]
theorem fill_builds (id : Nat) : Builds origin (fill id) := by
  unfold fill
  grind

@[grind ←]
theorem fillPending_builds (steps : Nat) : Builds origin (fillPending steps) := by
  induction steps with
  | zero => exact Contained.pure _
  | succ steps ih =>
      unfold fillPending
      grind

theorem build_builds (root : Nat) : Builds origin (build root) := by
  unfold build
  grind

end Build

/-- A graph whose values cannot be built has a reported fault, or a text that does not fit. -/
theorem construct_failsWith {root : Nat} {graph : Graph} {fault : Fault}
    (failed : construct root graph = .error fault) : FailsWith graph fault := by
  unfold construct at failed
  have contained := Build.build_builds root (.initial graph) (Graph.StemsFrom.refl graph)
  rcases error_of_bind failed with broken | ⟨ended, -, returned⟩
  · rw [broken] at contained
    exact contained
  · cases returned

end BundleLint.Yaml
