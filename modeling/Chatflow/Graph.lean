import Chatflow.Node

/-!
# Graphs

The nodes and edges of a workflow in the order of their author.  Nodes are looked up by their id,
and of several nodes with one id the first is meant.
-/

namespace Chatflow

structure Graph where
  nodes : List Node := []
  edges : List Edge := []
deriving DecidableEq, Repr

namespace Graph

def addNode (graph : Graph) (node : Node) : Graph := { graph with nodes := graph.nodes ++ [node] }

def addEdge (graph : Graph) (edge : Edge) : Graph := { graph with edges := graph.edges ++ [edge] }

def ofDefinition (definition : Definition) : Graph where
  nodes := definition.nodes.map Node.ofSpec
  edges := definition.edges.map Edge.ofSpec

def node? (graph : Graph) (id : NodeId) : Option Node := graph.nodes.find? (·.id == id)

def triggers (graph : Graph) : List Node := graph.nodes.filter (·.kind.isTrigger)

def outgoing (graph : Graph) (id : NodeId) : List Edge := graph.edges.filter (·.source == id)

/-- The ids of all nodes, each once, in the order of their first nodes. -/
def ids (graph : Graph) : List NodeId := (graph.nodes.map (·.id)).eraseDups

/-- The trigger that an event starts: the first that accepts it. -/
def select (graph : Graph) (context : RunContext) : Option Node :=
  graph.nodes.find? fun node =>
    match node.kind with
    | .trigger trigger => trigger.accepts context.userText context.isCallback
    | _ => false

end Graph

end Chatflow
