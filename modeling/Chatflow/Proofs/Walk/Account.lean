import Chatflow.Proofs.Run.Event
import Chatflow.Walk

/-!
# Accounts of walks

An account says what a walk is to do without saying how it goes about it: which nodes it visits,
what is done at each of them and answered to it, what the trace says, and how the walk ends.  The
nodes are the iterates of one partial function on the nodes of the graph.
-/

namespace Chatflow

/-! ## The way of a walk -/

def Condition.exitOn (condition : Condition) (text : String) : Handle :=
  match condition.evaluate text with
  | .evaluated true => .whenTrue
  | .evaluated false | .unimplemented _ => .whenFalse

namespace Graph

def Leaves (text : String) (node : Node) (edge : Edge) : Prop :=
  edge.source = node.id ∧
    ∀ condition, node.kind = .condition condition →
      edge.handle = some (condition.exitOn text)

instance (text : String) (node : Node) (edge : Edge) : Decidable (Leaves text node edge) :=
  match h : node.kind with
  | .condition condition =>
    decidable_of_iff (edge.source = node.id ∧
        edge.handle = some (condition.exitOn text)) (by
      simp [Leaves, h])
  | .trigger _ | .action _ | .agent _ | .other _ =>
    decidable_of_iff (edge.source = node.id) (by simp [Leaves, h])

/-- The edge along which a walk leaves a node: the first that it may take. -/
def chosenEdge? (graph : Graph) (text : String) (node : Node) : Option Edge :=
  graph.edges.find? fun edge => decide (Leaves text node edge)

/-- The node to which a walk comes from a node: the first with the id at which the edge ends. -/
def successor? (graph : Graph) (text : String) (node : Node) : Option Node :=
  (graph.chosenEdge? text node).bind fun edge =>
    graph.nodes.find? fun target => target.id == edge.target

def nodeAfter? (graph : Graph) (text : String) (start : Node) : Nat → Option Node
  | 0 => some start
  | steps + 1 => (graph.nodeAfter? text start steps).bind (graph.successor? text)

inductive EndsAt (graph : Graph) (text : String) (node : Node) : WalkEnd → Prop
  | noOutgoingEdge (final : ∀ edge ∈ graph.edges, edge.source ≠ node.id) :
      EndsAt graph text node .noOutgoingEdge
  | noMatchingBranch {condition : Condition} (kind : node.kind = .condition condition)
      {edge : Edge} (member : edge ∈ graph.edges) (source : edge.source = node.id)
      (unchosen : graph.chosenEdge? text node = none) : EndsAt graph text node .noMatchingBranch
  | unresolvedTarget {edge : Edge} (chosen : graph.chosenEdge? text node = some edge)
      (dangling : ∀ target ∈ graph.nodes, target.id ≠ edge.target) :
      EndsAt graph text node .unresolvedTarget

/-! ### The trace -/

def typeText : NodeKind → String
  | .trigger _ => "trigger"
  | .condition _ => "condition"
  | .action _ => "action"
  | .agent _ => "agent"
  | .other type => type

def outcomeText : ConditionOutcome → String
  | .evaluated true => "Condition result: true"
  | .evaluated false => "Condition result: false"
  | .unimplemented kind =>
    "Condition result: false (unimplemented condition kind: " ++ kind ++ ")"

def outcomeEntries (graph : Graph) (text : String) (node : Node) : List String :=
  match node.kind with
  | .condition condition =>
    if ∃ edge ∈ graph.edges, edge.source = node.id then [outcomeText (condition.evaluate text)]
    else []
  | .trigger _ | .action _ | .agent _ | .other _ => []

def stepEntries (graph : Graph) (text : String) (step : Nat) (node : Node) : List String :=
  ("Step " ++ toString step ++ ": " ++ node.label ++ " (" ++ typeText node.kind ++ ")") ::
    graph.outcomeEntries text node

end Graph

/-! ## Visits -/

/-- How a message with buttons is sent: one button in each row, and no keyboard without buttons. -/
def Action.optionsWith (buttons : List ButtonSpec) : SendOptions where
  parseMode := some .markdown
  keyboard := if buttons = [] then none else some ⟨buttons.map fun button => [button.button]⟩

def VariableOrder.variables (order : VariableOrder) (context : RunContext) : Prompt.Variables :=
  match order with
  | .textFirst =>
    [("last_message", context.userText), ("user_name", context.userName.getD "")]
  | .nameFirst =>
    [("user_name", context.userName.getD ""), ("last_message", context.userText)]

def Agent.question (agent : Agent) (apiKey : String) (order : VariableOrder)
    (context : RunContext) : GenerationRequest where
  provider := agent.provider
  apiKey
  model := agent.model
  system := agent.systemPrompt.render (order.variables context)
  user := agent.userPrompt.render (order.variables context)

/-- What happened when a walk came to a node: the calls that were made, what was added to the trace,
and the failure, if there was one. -/
structure Visit where
  node : Node
  events : List RunEvent := []
  entries : List String := []
  failure : Option ActionError := none

inductive Visit.Allowed (canGenerate : Bool) (order : VariableOrder) (context : RunContext) :
    Visit → Prop
  | passed {node : Node} (idle : node.kind.isExecutable = false) :
      Allowed canGenerate order context { node }
  | sent {node : Node} {message : String} {buttons : List ButtonSpec} {receipt : Receipt}
      (kind : node.kind = .action (.sendMessage message buttons)) :
      Allowed canGenerate order context {
        node
        events := [.sent ⟨context.chat, message, Action.optionsWith buttons⟩ (.ok receipt)] }
  | notSent {node : Node} {message : String} {buttons : List ButtonSpec} {failure : TransportError}
      (kind : node.kind = .action (.sendMessage message buttons)) :
      Allowed canGenerate order context {
        node
        events := [.sent ⟨context.chat, message, Action.optionsWith buttons⟩ (.error failure)]
        failure := some (.delivery node.id failure) }
  | unsupported {node : Node} (kind : node.kind = .action .unsupported) :
      Allowed canGenerate order context {
        node
        entries := ["Skipped: unsupported action \"" ++ node.label ++ "\""] }
  | noGenerator {node : Node} {agent : Agent} (kind : node.kind = .agent agent)
      (cannot : canGenerate = false) :
      Allowed canGenerate order context {
        node
        entries := ["Skipped: no text generator configured for \"" ++ node.label ++ "\""] }
  | noKey {node : Node} {agent : Agent} (kind : node.kind = .agent agent)
      (can : canGenerate = true) (keyless : agent.apiKey = none) :
      Allowed canGenerate order context {
        node
        failure := some (.generation node.id
          (.invalidConfig (agent.provider.name ++ " agent has no apiKey"))) }
  | notGenerated {node : Node} {agent : Agent} {apiKey : String} {failure : GenerationError}
      (kind : node.kind = .agent agent) (can : canGenerate = true)
      (keyed : agent.apiKey = some apiKey) :
      Allowed canGenerate order context {
        node
        events := [.generated (agent.question apiKey order context) (.error failure)]
        failure := some (.generation node.id failure) }
  | answered {node : Node} {agent : Agent} {apiKey reply : String} {receipt : Receipt}
      (kind : node.kind = .agent agent) (can : canGenerate = true)
      (keyed : agent.apiKey = some apiKey) :
      Allowed canGenerate order context {
        node
        events := [.generated (agent.question apiKey order context) (.ok reply),
          .sent ⟨context.chat, reply, .markdown⟩ (.ok receipt)] }
  | notAnswered {node : Node} {agent : Agent} {apiKey reply : String} {failure : TransportError}
      (kind : node.kind = .agent agent) (can : canGenerate = true)
      (keyed : agent.apiKey = some apiKey) :
      Allowed canGenerate order context {
        node
        events := [.generated (agent.question apiKey order context) (.ok reply),
          .sent ⟨context.chat, reply, .markdown⟩ (.error failure)]
        failure := some (.delivery node.id failure) }

/-! ## Accounts -/

/-- What the trace of a walk says: of each step the node at which it begins, and then what was said
on the visit to the next node. -/
def walkSteps (graph : Graph) (text : String) (made : Nat) (start : Node) (visits : List Visit)
    (count : Nat) : List String :=
  (List.range count).flatMap fun step =>
    (graph.nodeAfter? text start step).elim [] (graph.stepEntries text (made + step + 1)) ++
      visits[step]?.elim [] Visit.entries

inductive WalkConclusion (graph : Graph) (text : String) (limit : Nat) (start : Node)
    (visits : List Visit) : Nat → Except ActionError WalkEnd → Prop
  | failed {visit : Visit} {failure : ActionError} (last : visits.getLast? = some visit)
      (failed : visit.failure = some failure) :
      WalkConclusion graph text limit start visits visits.length (.error failure)
  | stepLimit (all : visits.length = limit) (succeeded : ∀ visit ∈ visits, visit.failure = none) :
      WalkConclusion graph text limit start visits limit (.ok .stepLimit)
  | ended {node : Node} {ending : WalkEnd} (some_left : visits.length < limit)
      (succeeded : ∀ visit ∈ visits, visit.failure = none)
      (reached : graph.nodeAfter? text start visits.length = some node)
      (ends : graph.EndsAt text node ending) :
      WalkConclusion graph text limit start visits (visits.length + 1) (.ok ending)

/-- An account of the last `limit` steps of a walk, `made` steps having been made before. -/
structure WalkAccount (graph : Graph) (canGenerate : Bool) (orders : Nat → VariableOrder)
    (context : RunContext) (made limit : Nat) (start : Node) (visits : List Visit)
    (progress : Progress WalkEnd) (history : List RunEvent) : Prop where
  length_le : visits.length ≤ limit
  node_eq : ∀ (i : Nat) (h : i < visits.length),
    graph.nodeAfter? context.userText start (i + 1) = some visits[i].node
  allowed : ∀ (i : Nat) (h : i < visits.length),
    visits[i].Allowed canGenerate (orders (made + i + 1)) context
  succeeded : ∀ visit ∈ visits.dropLast, visit.failure = none
  history_eq : history = visits.flatMap Visit.events
  conclusion : ∃ count,
    WalkConclusion graph context.userText limit start visits count progress.outcome ∧
      progress.steps = walkSteps graph context.userText made start visits count

end Chatflow
