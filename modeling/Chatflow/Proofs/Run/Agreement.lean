import Chatflow.Proofs.Run.Course
import Chatflow.Proofs.Walk.Reference

/-!
# Runs of graphs that lead alike

All that a run learns of a graph is where the edges of the nodes on its way lead, at which handles
they start, and which triggers there are.  Two graphs that agree on this are run in the same way,
whatever else is in them.
-/

namespace Chatflow

/-! ## Exits -/

/-- Where an edge leads, and the handle at which it starts. -/
def Edge.exit (edge : Edge) : NodeId × Option Handle := (edge.target, edge.handle)

namespace Graph

def exits (graph : Graph) (id : NodeId) : List (NodeId × Option Handle) :=
  (graph.outgoing id).map Edge.exit

variable {graph first second : Graph} {text : String} {node : Node}

theorem find?_exits (graph : Graph) (id : NodeId) (outcome : Bool) :
    (graph.exits id).find? (fun exit => exit.2 == some (.ofOutcome outcome)) =
      ((graph.outgoing id).find? (·.isBranch outcome)).map Edge.exit := by
  rw [exits, List.find?_map]
  rfl

theorem follow_congr {edge other : Edge} (same : edge.exit = other.exit)
    (targets : first.node? edge.exit.1 = second.node? edge.exit.1) :
    first.follow edge = second.follow other := by
  have target : edge.target = other.target := congrArg Prod.fst same
  change first.node? edge.target = second.node? edge.target at targets
  rw [follow, follow, ← target, targets]

theorem next_congr (exits : first.exits node.id = second.exits node.id)
    (targets : ∀ exit ∈ first.exits node.id, first.node? exit.1 = second.node? exit.1) :
    first.next text node = second.next text node := by
  have follow {edge other : Edge} (member : edge ∈ first.outgoing node.id)
      (same : edge.exit = other.exit) : first.follow edge = second.follow other :=
    follow_congr same (targets edge.exit (List.mem_map_of_mem member))
  have chosen (outcome : Bool) := congrArg
    (List.find? fun exit => exit.2 == some (.ofOutcome outcome)) exits
  simp only [find?_exits] at chosen
  rw [Graph.exits, Graph.exits] at exits
  rw [next, next]
  cases left : first.outgoing node.id with
  | nil =>
      rw [left, List.map_nil, eq_comm, List.map_eq_nil_iff] at exits
      rw [exits]
  | cons edge edges =>
      cases right : second.outgoing node.id with
      | nil => simp [left, right] at exits
      | cons other others =>
          rw [left] at follow
          simp only [left, right] at chosen
          rw [left, right, List.map_cons, List.map_cons, List.cons.injEq] at exits
          cases kind : node.kind with
          | condition condition =>
              specialize chosen (condition.evaluate text).branch
              simp only
              congr 1
              cases taken : (edge :: edges).find? (·.isBranch (condition.evaluate text).branch) with
              | none =>
                  rw [taken, Option.map_none, eq_comm, Option.map_eq_none_iff] at chosen
                  rw [chosen]
              | some exit =>
                  rw [taken, Option.map_some, eq_comm, Option.map_eq_some_iff] at chosen
                  obtain ⟨otherExit, otherTaken, same⟩ := chosen
                  rw [otherTaken]
                  exact follow (List.mem_of_find?_eq_some taken) same.symm
          | trigger _ | action _ | agent _ | other _ =>
              exact congrArg _ (follow (.head _) exits.1)

end Graph

/-! ## Walks -/

/-- From nodes of a kind both graphs lead on in the same way, and to nodes of that kind again. -/
structure Graph.LeadAlike (first second : Graph) (text : String) (kept : Node → Prop) : Prop where
  next_eq : ∀ node, kept node → first.next text node = second.next text node
  kept_next : ∀ node target, kept node → (first.next text node).2 = .ok target → kept target

variable {first second : Graph} {canGenerate : Bool} {orders : Nat → VariableOrder}
  {context : RunContext} {left made : Nat} {node : Node} {kept : Node → Prop}

theorem walkFrom_eq_of_leadAlike (alike : first.LeadAlike second context.userText kept)
    (start : kept node) :
    walkFrom first canGenerate orders context left made node =
      walkFrom second canGenerate orders context left made node := by
  induction left generalizing made node with
  | zero => rfl
  | succ left ih =>
      have onward := alike.kept_next node
      have same := alike.next_eq node start
      rw [same] at onward
      simp only [walkFrom, same]
      cases found : (second.next context.userText node).2 with
      | error ending => rfl
      | ok target => simp only [ih (onward target start found)]

/-! ## Runs -/

theorem Graph.select_eq_find?_triggers (graph : Graph) (context : RunContext) :
    graph.select context = graph.triggers.find? fun node =>
      match node.kind with
      | .trigger trigger => trigger.accepts context.userText context.isCallback
      | _ => false := by
  rw [select, triggers, List.find?_filter]
  congr 1
  funext node
  cases node.kind <;> simp [NodeKind.isTrigger]

theorem runGraph_eq_of_leadAlike {workflowId : Option WorkflowId} {startedAt : Instant}
    (alike : first.LeadAlike second context.userText kept)
    (triggers : first.triggers = second.triggers)
    (starts : ∀ trigger ∈ first.triggers, kept trigger) :
    runGraph first canGenerate orders workflowId startedAt context =
      runGraph second canGenerate orders workflowId startedAt context := by
  have selected : first.select context = second.select context := by
    rw [Graph.select_eq_find?_triggers, Graph.select_eq_find?_triggers, triggers]
  rw [runGraph, runGraph, ← selected]
  cases found : first.select context with
  | none => rfl
  | some trigger =>
      rw [Graph.select_eq_find?_triggers] at found
      have start := starts trigger (List.mem_of_find?_eq_some found)
      simp only [walk, walkFrom_eq_of_leadAlike alike start]

/-- Definitions whose graphs lead alike are run in the same way. -/
theorem run_eq_of_leadAlike {firstText secondText : Option String}
    {firstDefinition secondDefinition : Definition} {workflowId : Option WorkflowId}
    (firstRead : Definition.parse firstText = .ok firstDefinition)
    (secondRead : Definition.parse secondText = .ok secondDefinition)
    (alike : (Graph.ofDefinition firstDefinition).LeadAlike (.ofDefinition secondDefinition)
      context.userText kept)
    (triggers : (Graph.ofDefinition firstDefinition).triggers =
      (Graph.ofDefinition secondDefinition).triggers)
    (starts : ∀ trigger ∈ (Graph.ofDefinition firstDefinition).triggers, kept trigger) :
    run firstText canGenerate orders workflowId context =
      run secondText canGenerate orders workflowId context := by
  rw [run, run, firstRead, secondRead]
  simp only [runGraph_eq_of_leadAlike alike triggers starts]

end Chatflow
