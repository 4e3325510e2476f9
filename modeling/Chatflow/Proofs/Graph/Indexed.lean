import Chatflow.Graph.Diagnostics
import Chatflow.Graph.Indexed
import Chatflow.Proofs.SecondOccurrence
import Std.Data.HashMap.Lemmas

/-!
# Graphs that grow

However nodes and edges come to a graph with an index, it answers as a graph that is searched from
the front, and it is the same graph for all ways in which the nodes and the edges alternate.
-/

namespace Chatflow

/-! ## Repeated ids -/

namespace Graph

variable {before seen repeated : List NodeId}

theorem inSecondOrder_collectRepeated (ids : List NodeId) (known : ∀ id, id ∈ seen ↔ id ∈ before)
    (inOrder : InSecondOrder before repeated) :
    InSecondOrder (before ++ ids) (collectRepeated seen repeated ids) := by
  induction ids generalizing before seen repeated with
  | nil => simpa [collectRepeated] using inOrder
  | cons id ids ih =>
      have next := inOrder.concat id
      rw [List.append_cons, collectRepeated]
      by_cases old : id ∈ before
      · have marked : id ∈ seen := (known id).mpr old
        have still (other : NodeId) : other ∈ seen ↔ other ∈ before ++ [id] := by
          rw [known, List.mem_append, List.mem_singleton]
          exact ⟨.inl, fun either => either.elim (·) fun same => same ▸ old⟩
        rw [if_pos (List.contains_iff_mem.mpr marked)]
        refine ih still ?_
        by_cases listed : id ∈ repeated <;> simpa [old, listed] using next
      · have unmarked : ¬ id ∈ seen := fun marked => old ((known id).mp marked)
        rw [if_neg (unmarked ∘ List.contains_iff_mem.mp)]
        refine ih (fun other => ?_) (by simpa [old] using next)
        rw [List.mem_append, List.mem_append, known]

theorem inSecondOrder_duplicateIds (graph : Graph) :
    InSecondOrder (graph.nodes.map Node.id) graph.duplicateIds :=
  inSecondOrder_collectRepeated _ (fun _ => .rfl) .nil

end Graph

/-! ## What is kept -/

namespace IndexedGraph

variable {indexed : IndexedGraph} {node : Node} {edge : Edge} {id : NodeId}

/-- The index says of the nodes what is so. -/
structure IsKept (indexed : IndexedGraph) : Prop where
  position : ∀ id : NodeId,
    indexed.positions[id]? = indexed.graph.nodes.findIdx? (·.id == id)
  repeated : InSecondOrder (indexed.graph.nodes.map Node.id) indexed.repeated

theorem isKept_empty : IsKept {} := ⟨fun _ => by simp, .nil⟩

theorem IsKept.contains_iff (kept : indexed.IsKept) :
    indexed.positions.contains id = true ↔ id ∈ indexed.graph.nodes.map Node.id := by
  rw [Std.HashMap.contains_eq_isSome_getElem?, kept.position, List.findIdx?_isSome]
  simp

theorem graph_addNode (indexed : IndexedGraph) (node : Node) :
    (indexed.addNode node).graph = indexed.graph.addNode node := by
  rw [addNode]
  split <;> rfl

theorem IsKept.addNode (kept : indexed.IsKept) (node : Node) : (indexed.addNode node).IsKept := by
  have reported := kept.repeated.concat node.id
  have position (id : NodeId) :
      (indexed.graph.addNode node).nodes.findIdx? (·.id == id) =
        (indexed.positions[id]?).or
          (if node.id = id then some indexed.graph.nodes.length else none) := by
    rw [kept.position, Graph.addNode, List.findIdx?_append, List.findIdx?_singleton]
    by_cases same : node.id = id <;> simp [same]
  by_cases taken : indexed.positions.contains node.id = true
  · have old := kept.contains_iff.mp taken
    rw [IndexedGraph.addNode, if_pos taken]
    refine ⟨fun id => ?_, ?_⟩
    · rw [position]
      by_cases same : node.id = id
      · subst same
        rw [Std.HashMap.contains_eq_isSome_getElem?] at taken
        simp [Option.or_of_isSome taken]
      · simp [same]
    · by_cases listed : node.id ∈ indexed.repeated <;>
        simpa [Graph.addNode, old, listed] using reported
  · have new : node.id ∉ indexed.graph.nodes.map Node.id := taken ∘ kept.contains_iff.mpr
    rw [IndexedGraph.addNode, if_neg taken]
    refine ⟨fun id => ?_, by simpa [Graph.addNode, new] using reported⟩
    rw [position, Std.HashMap.getElem?_insert]
    by_cases same : node.id = id
    · subst same
      rw [Std.HashMap.contains_eq_isSome_getElem?, Option.not_isSome_iff_eq_none] at taken
      simp [taken]
    · simp [same]

theorem IsKept.add (kept : indexed.IsKept) (addition : Addition) : (indexed.add addition).IsKept := by
  cases addition with
  | node node => exact kept.addNode node
  | edge edge => exact ⟨kept.position, kept.repeated⟩

theorem IsKept.addAll (kept : indexed.IsKept) (additions : List Addition) :
    (indexed.addAll additions).IsKept := by
  induction additions generalizing indexed with
  | nil => exact kept
  | cons addition additions ih => exact ih (kept.add addition)

/-- No position that is kept lies behind the nodes. -/
theorem IsKept.node?_eq (kept : indexed.IsKept) (id : NodeId) :
    indexed.node? id = .ok (indexed.graph.node? id) := by
  rw [node?, Graph.node?, List.find?_eq_bind_findIdx?_getElem?, ← kept.position]
  cases position? : indexed.positions[id]? with
  | none => rfl
  | some position =>
      rw [kept.position] at position?
      obtain ⟨inRange, -⟩ := List.findIdx?_eq_some_iff_getElem.mp position?
      simp [inRange]

theorem IsKept.duplicateIds_eq (kept : indexed.IsKept) :
    indexed.graph.duplicateIds = indexed.repeated :=
  indexed.graph.inSecondOrder_duplicateIds.unique kept.repeated

/-! ## What is added -/

theorem graph_addAll (indexed : IndexedGraph) (additions : List Addition) :
    (indexed.addAll additions).graph =
      ⟨indexed.graph.nodes ++ additions.filterMap Addition.node?,
        indexed.graph.edges ++ additions.filterMap Addition.edge?⟩ := by
  induction additions generalizing indexed with
  | nil => simp [IndexedGraph.addAll]
  | cons addition additions ih =>
      rw [IndexedGraph.addAll, List.foldl_cons, ← IndexedGraph.addAll, ih]
      cases addition with
      | node node =>
          simp [IndexedGraph.add, graph_addNode, Graph.addNode, List.filterMap_cons,
            Addition.node?, Addition.edge?]
      | edge edge =>
          simp [IndexedGraph.add, addEdge, Graph.addEdge, List.filterMap_cons, Addition.node?,
            Addition.edge?]

theorem addNode_addEdge (indexed : IndexedGraph) (edge : Edge) (node : Node) :
    (indexed.addEdge edge).addNode node = (indexed.addNode node).addEdge edge := by
  by_cases taken : indexed.positions.contains node.id = true <;>
    simp [IndexedGraph.addNode, addEdge, Graph.addNode, Graph.addEdge, taken]

theorem foldl_addNode_addEdge (indexed : IndexedGraph) (edge : Edge) (nodes : List Node) :
    nodes.foldl IndexedGraph.addNode (indexed.addEdge edge) =
      (nodes.foldl IndexedGraph.addNode indexed).addEdge edge := by
  induction nodes generalizing indexed with
  | nil => rfl
  | cons node nodes ih => rw [List.foldl_cons, addNode_addEdge, ih, List.foldl_cons]

/-- The edges may as well come after all nodes. -/
theorem addAll_eq (indexed : IndexedGraph) (additions : List Addition) :
    indexed.addAll additions =
      (additions.filterMap Addition.edge?).foldl addEdge
        ((additions.filterMap Addition.node?).foldl IndexedGraph.addNode indexed) := by
  induction additions generalizing indexed with
  | nil => rfl
  | cons addition additions ih =>
      rw [IndexedGraph.addAll, List.foldl_cons, ← IndexedGraph.addAll, ih]
      cases addition with
      | node node => rfl
      | edge edge =>
          rw [add, foldl_addNode_addEdge]
          rfl

theorem graph_ofDefinition (definition : Definition) :
    (ofDefinition definition).graph = .ofDefinition definition := by
  rw [ofDefinition, graph_addAll]
  simp [Graph.ofDefinition, List.filterMap_map, Function.comp_def, Addition.node?, Addition.edge?]

/-! ## Answers -/

/-- The node is the first of those with the id. -/
def IsFirst (nodes : List Node) (id : NodeId) (node : Node) : Prop :=
  ∃ before after, nodes = before ++ node :: after ∧ node.id = id ∧
    ∀ other ∈ before, other.id ≠ id

/-- A graph with an index answers from nodes and edges in the order in which they came. -/
structure AnswersFrom (indexed : IndexedGraph) (nodes : List Node) (edges : List Edge) : Prop where
  nodes_eq : indexed.graph.nodes = nodes
  edges_eq : indexed.graph.edges = edges
  triggers_eq : indexed.graph.triggers = nodes.filter (·.kind.isTrigger)
  outgoing_eq : ∀ id, indexed.graph.outgoing id = edges.filter (·.source == id)
  inRange : ∀ id failure, indexed.node? id ≠ .error failure
  found : ∀ id node, indexed.node? id = .ok (some node) ↔ IsFirst nodes id node
  missing : ∀ id, indexed.node? id = .ok none ↔ ∀ node ∈ nodes, node.id ≠ id
  repeated : InSecondOrder (nodes.map Node.id) indexed.repeated

theorem graph_node?_eq_some_iff {graph : Graph} :
    graph.node? id = some node ↔ IsFirst graph.nodes id node := by
  simp only [Graph.node?, List.find?_eq_some_iff_append, IsFirst, beq_iff_eq, Bool.not_eq_true',
    beq_eq_false_iff_ne]
  constructor
  · rintro ⟨same, before, after, split, others⟩
    exact ⟨before, after, split, same, others⟩
  · rintro ⟨before, after, split, same, others⟩
    exact ⟨same, before, after, split, others⟩

theorem IsKept.answersFrom (kept : indexed.IsKept) :
    indexed.AnswersFrom indexed.graph.nodes indexed.graph.edges where
  nodes_eq := rfl
  edges_eq := rfl
  triggers_eq := rfl
  outgoing_eq _ := rfl
  inRange id failure := by simp [kept.node?_eq]
  found id node := by
    rw [kept.node?_eq, Except.ok.injEq]
    exact graph_node?_eq_some_iff
  missing id := by simp [kept.node?_eq, Graph.node?]
  repeated := kept.repeated

/-- However nodes and edges were added, the index answers as the nodes and edges in their order say,
as does the graph without the index, and only these two orders matter. -/
theorem addAll_answersFrom (additions : List Addition) :
    let indexed := addAll {} additions
    let nodes := additions.filterMap Addition.node?
    let edges := additions.filterMap Addition.edge?
    indexed.AnswersFrom nodes edges ∧
      (∀ id, indexed.node? id = .ok (indexed.graph.node? id)) ∧
      indexed.graph.duplicateIds = indexed.repeated ∧
      ∀ others : List Addition, others.filterMap Addition.node? = nodes →
        others.filterMap Addition.edge? = edges → addAll {} others = indexed := by
  intro indexed nodes edges
  have kept : indexed.IsKept := isKept_empty.addAll additions
  have graph : indexed.graph = ⟨nodes, edges⟩ := graph_addAll {} additions
  refine ⟨?_, kept.node?_eq, kept.duplicateIds_eq, fun others sameNodes sameEdges => ?_⟩
  · have answers := kept.answersFrom
    rwa [graph] at answers
  · rw [addAll_eq, sameNodes, sameEdges]
    exact (addAll_eq {} additions).symm

theorem addAll_answersFrom_alternating :
    let menu : Node := ⟨"menu", "Send Message", .action (.sendMessage "Choose" [])⟩
    let start : Node := ⟨"start", "Command", .trigger (.command "/start")⟩
    let late : Node := ⟨"menu", "Reply", .action (.sendMessage "Too late" [])⟩
    let edge : Edge := { source := "start", target := "menu" }
    let additions : List Addition :=
      [.edge edge, .node start, .node menu, .node late, .node start, .edge edge, .node late]
    let others : List Addition :=
      [.node start, .node menu, .edge edge, .node late, .node start, .node late, .edge edge]
    others.filterMap Addition.node? = additions.filterMap Addition.node? ∧
      others.filterMap Addition.edge? = additions.filterMap Addition.edge? ∧
      addAll {} others = addAll {} additions ∧
      (addAll {} additions).node? "menu" = .ok (some menu) ∧
      (addAll {} additions).repeated = ["menu", "start"] := by
  intro menu start late edge additions others
  obtain ⟨answers, -, duplicates, same⟩ := addAll_answersFrom additions
  refine ⟨rfl, rfl, same others rfl rfl, ?_, ?_⟩
  · refine (answers.found "menu" menu).mpr ⟨[start], [late, start, late], rfl, rfl, ?_⟩
    simp [start]
  · rw [← duplicates, Graph.duplicateIds, answers.nodes_eq]
    decide

end IndexedGraph

end Chatflow
