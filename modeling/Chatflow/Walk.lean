import Chatflow.Graph
import Chatflow.Service

/-!
# Walks

A walk goes from node to node along the edges of a graph and does what the nodes on its way are for.
It has at most fifty steps, so cycles do no harm.  The trace of a walk tells each node that it
leaves or ends at, the outcome of each condition, and what had to be skipped.
-/

namespace Chatflow

/-! ## Single nodes -/

structure Progress (α : Type) where
  steps : List String
  outcome : Except ActionError α

def deliver (context : RunContext) (node : Node) (text : String) (options : SendOptions) :
    RunProgram (Progress Unit) := do
  match ← RunProgram.send ⟨context.chat, text, options⟩ with
  | .ok _ => return ⟨[], .ok ()⟩
  | .error failure => return ⟨[], .error (.delivery node.id failure)⟩

def runAgent (canGenerate : Bool) (order : VariableOrder) (context : RunContext) (node : Node)
    (agent : Agent) : RunProgram (Progress Unit) := do
  if !canGenerate then
    return ⟨["Skipped: no text generator configured for \"" ++ node.label ++ "\""], .ok ()⟩
  match agent.request order context with
  | .error failure => return ⟨[], .error (.generation node.id failure)⟩
  | .ok request =>
    match ← RunProgram.generate request with
    | .error failure => return ⟨[], .error (.generation node.id failure)⟩
    | .ok reply => deliver context node reply .markdown

def execute (canGenerate : Bool) (order : VariableOrder) (context : RunContext) (node : Node) :
    RunProgram (Progress Unit) :=
  match node.kind with
  | .action (.sendMessage message buttons) =>
    deliver context node message (Action.sendOptions buttons)
  | .action .unsupported =>
    return ⟨["Skipped: unsupported action \"" ++ node.label ++ "\""], .ok ()⟩
  | .agent agent => runAgent canGenerate order context node agent
  | .trigger _ | .condition _ | .other _ => return ⟨[], .ok ()⟩

/-! ## The way -/

inductive WalkEnd where
  | noOutgoingEdge
  | noMatchingBranch
  | unresolvedTarget
  | stepLimit
deriving DecidableEq, Repr

namespace Graph

def follow (graph : Graph) (edge : Edge) : Except WalkEnd Node :=
  match graph.node? edge.target with
  | some node => .ok node
  | none => .error .unresolvedTarget

/-- Where a walk goes on from a node, and what the trace then says about the node beyond its name: a
condition chooses the first edge at the exit for its outcome, other nodes their first edge. -/
def next (graph : Graph) (text : String) (node : Node) : List String × Except WalkEnd Node :=
  match graph.outgoing node.id with
  | [] => ([], .error .noOutgoingEdge)
  | first :: rest =>
    match node.kind with
    | .condition condition =>
      let outcome := condition.evaluate text
      let found :=
        match (first :: rest).find? (·.isBranch outcome.branch) with
        | some edge => graph.follow edge
        | none => .error .noMatchingBranch
      ([outcome.traceEntry], found)
    | _ => ([], graph.follow first)

end Graph

/-! ## Walks -/

def stepLimit : Nat := 50

def stepEntry (step : Nat) (node : Node) : String :=
  "Step " ++ toString step ++ ": " ++ node.label ++ " (" ++ node.kind.typeName ++ ")"

/-- Walks on from a node, some steps having been made and some being left.  Each step has an order
for the request that may be made on it. -/
def walkFrom (graph : Graph) (canGenerate : Bool) (orders : Nat → VariableOrder)
    (context : RunContext) : (left made : Nat) → Node → RunProgram (Progress WalkEnd)
  | 0, _, _ => return ⟨[], .ok .stepLimit⟩
  | left + 1, made, node => do
    let (entries, found) := graph.next context.userText node
    let steps := stepEntry (made + 1) node :: entries
    match found with
    | .error ending => return ⟨steps, .ok ending⟩
    | .ok target =>
      let done ← execute canGenerate (orders (made + 1)) context target
      match done.outcome with
      | .error failure => return ⟨steps ++ done.steps, .error failure⟩
      | .ok () =>
        let rest ← walkFrom graph canGenerate orders context left (made + 1) target
        return ⟨steps ++ done.steps ++ rest.steps, rest.outcome⟩

def walk (graph : Graph) (canGenerate : Bool) (orders : Nat → VariableOrder)
    (context : RunContext) (start : Node) : RunProgram (Progress WalkEnd) :=
  walkFrom graph canGenerate orders context stepLimit 0 start

end Chatflow
