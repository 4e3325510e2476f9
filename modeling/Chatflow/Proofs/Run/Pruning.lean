import Chatflow.Proofs.Graph.Findings
import Chatflow.Proofs.Run.Agreement
import Chatflow.Proofs.Walk.Diagnosis

/-!
# Dead nodes

No run comes to a node whose id is reported as unreachable.  So such nodes may be taken out of a
definition, together with the edges that start at them, and it is run as before.
-/

namespace Chatflow

/-- The definition without the nodes that no trigger leads to and the edges that start at them. -/
def Definition.pruned (definition : Definition) : Definition :=
  let unreachable := (Graph.ofDefinition definition).diagnostics.unreachableIds
  { definition with
    nodes := definition.nodes.filter fun node => !unreachable.contains node.id
    edges := definition.edges.filter fun edge => !unreachable.contains edge.source }

namespace Graph

def pruned (graph : Graph) : Graph where
  nodes := graph.nodes.filter fun node => !graph.unreachableIds.contains node.id
  edges := graph.edges.filter fun edge => !graph.unreachableIds.contains edge.source

theorem ofDefinition_pruned (definition : Definition) :
    ofDefinition definition.pruned = (ofDefinition definition).pruned := by
  let unreachable := (ofDefinition definition).unreachableIds
  have nodes : (definition.nodes.map Node.ofSpec).filter (fun node => !unreachable.contains node.id) =
      (definition.nodes.filter fun node => !unreachable.contains node.id).map Node.ofSpec :=
    List.filter_map
  have edges : (definition.edges.map Edge.ofSpec).filter
        (fun edge => !unreachable.contains edge.source) =
      (definition.edges.filter fun edge => !unreachable.contains edge.source).map Edge.ofSpec :=
    List.filter_map
  exact congrArg₂ Graph.mk nodes.symm edges.symm

variable {graph : Graph} {id : NodeId}

/-! ## What is left -/

theorem node?_pruned (kept : id ∉ graph.unreachableIds) : graph.pruned.node? id = graph.node? id := by
  rw [node?, pruned, List.find?_filter, node?]
  congr 1
  funext node
  by_cases same : node.id = id
  · simp [same, kept]
  · simp [same]

theorem outgoing_pruned (kept : id ∉ graph.unreachableIds) :
    graph.pruned.outgoing id = graph.outgoing id := by
  rw [outgoing, pruned, List.filter_filter, outgoing]
  congr 1
  funext edge
  by_cases same : edge.source = id
  · simp [same, kept]
  · simp [same]

theorem not_mem_unreachableIds (live : graph.IsLive id) : id ∉ graph.unreachableIds :=
  fun unreachable => (mem_unreachableIds_iff.mp unreachable).2 live

theorem triggers_pruned (graph : Graph) : graph.pruned.triggers = graph.triggers := by
  rw [triggers, pruned, List.filter_filter, triggers]
  refine List.filter_congr fun node member => ?_
  cases kind : node.kind.isTrigger with
  | false => rfl
  | true => simpa using not_mem_unreachableIds (.of_trigger member kind)

/-! ## Walks from triggers -/

/-- The node is in the graph and some trigger leads to its id. -/
def IsLiveNode (graph : Graph) (node : Node) : Prop := node ∈ graph.nodes ∧ graph.IsLive node.id

theorem not_mem_unreachableIds_of_exit {node : Node} (live : graph.IsLiveNode node)
    {exit : NodeId × Option Handle} (member : exit ∈ graph.exits node.id) :
    exit.1 ∉ graph.unreachableIds := by
  intro unreachable
  obtain ⟨known, dead⟩ := mem_unreachableIds_iff.mp unreachable
  obtain ⟨edge, leaves, rfl⟩ := List.mem_map.mp member
  obtain ⟨inside, source⟩ := List.mem_filter.mp leaves
  rw [beq_iff_eq] at source
  have start : graph.HasId edge.source := ⟨node, live.1, source.symm⟩
  have joins : graph.Joins node.id edge.target := ⟨edge, inside, start, known, source, rfl⟩
  exact dead (live.2.joins joins)

theorem leadAlike_pruned (graph : Graph) (text : String) :
    graph.LeadAlike graph.pruned text graph.IsLiveNode where
  next_eq node live := by
    refine next_congr ?_ fun exit member => ?_
    · rw [exits, exits, outgoing_pruned (not_mem_unreachableIds live.2)]
    · exact (node?_pruned (not_mem_unreachableIds_of_exit live member)).symm
  kept_next node target live found := by
    have next := next_eq_ok_iff.mp found
    obtain ⟨edge, -, -, resolved⟩ := successor?_eq_some next
    have link := linked_of_successor? live.1 next
    rw [linked_links_eq] at link
    exact ⟨mem_of_node?_eq_some resolved, live.2.joins link⟩

end Graph

/-- A definition is run in the same way as what is left of it without its dead nodes, if prompts are
filled in in the same orders, whichever these are: the result is the same, and so are all calls that
are made. -/
theorem runIn_run_pruned {definition : Definition} {text prunedText : Option String}
    (read : Definition.parse text = .ok definition)
    (readPruned : Definition.parse prunedText = .ok definition.pruned) (canGenerate : Bool)
    (orders : Nat → VariableOrder) (workflowId : Option WorkflowId) (context : RunContext)
    (surroundings : Program.Surroundings RunCall RunCall.Answer) :
    (run prunedText canGenerate orders workflowId context).runIn surroundings =
      (run text canGenerate orders workflowId context).runIn surroundings := by
  have graphs := Graph.ofDefinition_pruned definition
  have alike := Graph.leadAlike_pruned (.ofDefinition definition) context.userText
  have triggers := Graph.triggers_pruned (.ofDefinition definition)
  rw [← graphs] at alike triggers
  rw [run_eq_of_leadAlike read readPruned alike triggers.symm]
  intro trigger member
  obtain ⟨inside, kind⟩ := List.mem_filter.mp member
  exact ⟨inside, .of_trigger inside kind⟩

theorem runIn_run_pruned_orphan :
    let trigger := "\x7b\"id\":\"1\",\"type\":\"trigger\",\"data\":\x7b\"label\":\"Command\"\x7d\x7d"
    let orphan := "\x7b\"id\":\"2\"\x7d"
    let text := "\x7b\"nodes\":[" ++ trigger ++ "," ++ orphan ++
      "],\"edges\":[\x7b\"source\":\"2\",\"target\":\"1\"\x7d]\x7d"
    let prunedText := "\x7b\"nodes\":[" ++ trigger ++ "]\x7d"
    let node : NodeSpec := { id := "1", type := "trigger", data := { label := .given "Command" } }
    let definition : Definition := {
      nodes := [node, { id := "2" }]
      edges := [{ source := "2", target := "1" }] }
    let context : RunContext := { chat := 1, userText := "/start" }
    let orders : Nat → VariableOrder := fun _ => .nameFirst
    let surroundings : Program.Surroundings RunCall RunCall.Answer := fun past request =>
      match request with
      | .now => Instant.ofUnixNanoseconds 0
      | .send _ => Except.ok ⟨.ofNat past.length⟩
      | .generate _ => Except.ok "text"
    Definition.parse (some text) = .ok definition ∧
      Definition.parse (some prunedText) = .ok definition.pruned ∧
      definition.pruned = { nodes := [node] } ∧
      (run (some prunedText) false orders none context).runIn surroundings =
        (run (some text) false orders none context).runIn surroundings := by
  intro trigger orphan text prunedText node definition context orders surroundings
  have read : Definition.parse (some text) = .ok definition := by decide +kernel
  have pruned : definition.pruned = { nodes := [node] } := by decide +kernel
  have readPruned : Definition.parse (some prunedText) = .ok definition.pruned := by
    rw [pruned]
    decide +kernel
  exact ⟨read, readPruned, pruned,
    runIn_run_pruned read readPruned false orders none context surroundings⟩

end Chatflow
