import Chatflow.Graph
import Std.Data.HashMap.Basic

/-!
# Graphs with an index

A graph that grows by one node or edge at a time and remembers the position of the first node of
each id, so that nodes are looked up without a search.  A node whose id is taken is kept, and the id
is noted as repeated.
-/

namespace Chatflow

/-- What a graph grows by. -/
inductive Addition where
  | node (node : Node)
  | edge (edge : Edge)
deriving DecidableEq, Repr

namespace Addition

def node? : Addition → Option Node
  | node added => some added
  | edge _ => none

def edge? : Addition → Option Edge
  | node _ => none
  | edge added => some added

end Addition

structure IndexedGraph where
  graph : Graph := {}
  positions : Std.HashMap NodeId Nat := {}
  /-- The ids that were taken when a node with them came. -/
  repeated : List NodeId := []

/-- A position at which there is no node. -/
structure OutOfRange where
  position : Nat
  length : Nat
deriving DecidableEq, Repr

namespace IndexedGraph

/-! ## Growth -/

def addNode (indexed : IndexedGraph) (node : Node) : IndexedGraph :=
  let graph := indexed.graph.addNode node
  if indexed.positions.contains node.id then
    let repeated :=
      if indexed.repeated.contains node.id then indexed.repeated
      else indexed.repeated ++ [node.id]
    { indexed with graph, repeated }
  else
    let positions := indexed.positions.insert node.id indexed.graph.nodes.length
    { indexed with graph, positions }

def addEdge (indexed : IndexedGraph) (edge : Edge) : IndexedGraph :=
  { indexed with graph := indexed.graph.addEdge edge }

def add (indexed : IndexedGraph) : Addition → IndexedGraph
  | .node node => indexed.addNode node
  | .edge edge => indexed.addEdge edge

def addAll (indexed : IndexedGraph) (additions : List Addition) : IndexedGraph :=
  additions.foldl add indexed

def ofDefinition (definition : Definition) : IndexedGraph :=
  addAll {} (definition.nodes.map (fun spec => .node (.ofSpec spec)) ++
    definition.edges.map fun spec => .edge (.ofSpec spec))

/-! ## Lookup -/

/-- The node at the position of the id. -/
def node? (indexed : IndexedGraph) (id : NodeId) : Except OutOfRange (Option Node) :=
  match indexed.positions[id]? with
  | none => .ok none
  | some position =>
    match indexed.graph.nodes[position]? with
    | some node => .ok (some node)
    | none => .error ⟨position, indexed.graph.nodes.length⟩

end IndexedGraph

end Chatflow
