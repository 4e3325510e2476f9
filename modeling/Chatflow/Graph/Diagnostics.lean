import Chatflow.Graph

/-!
# Diagnostics of graphs

What looks wrong in a graph though a run can deal with it: edges that miss an end, ids that several
nodes have, ids that no trigger leads to, and cycles.  Only edges with both ends lead anywhere.
-/

namespace Chatflow

structure Diagnostics where
  danglingEdges : List Edge
  duplicateIds : List NodeId
  unreachableIds : List NodeId
  hasCycle : Bool
deriving DecidableEq, Repr

def Diagnostics.isClean (diagnostics : Diagnostics) : Bool :=
  diagnostics.danglingEdges.isEmpty && diagnostics.duplicateIds.isEmpty &&
    diagnostics.unreachableIds.isEmpty && !diagnostics.hasCycle

namespace Graph

/-! ## Ids -/

/-- Adds to the ids repeated so far those that are repeated further on, in the order in which they
come a second time. -/
def collectRepeated (seen repeated : List NodeId) : List NodeId → List NodeId
  | [] => repeated
  | id :: rest =>
    if seen.contains id then
      collectRepeated seen (if repeated.contains id then repeated else repeated ++ [id]) rest
    else collectRepeated (seen ++ [id]) repeated rest

def duplicateIds (graph : Graph) : List NodeId :=
  collectRepeated [] [] (graph.nodes.map (·.id))

/-! ## Links -/

abbrev Link (Vertex : Type) := Vertex × Vertex

def isDangling (graph : Graph) (edge : Edge) : Bool :=
  !(graph.ids.contains edge.source && graph.ids.contains edge.target)

def danglingEdges (graph : Graph) : List Edge := graph.edges.filter graph.isDangling

def links (graph : Graph) : List (Link NodeId) :=
  (graph.edges.filter fun edge => !graph.isDangling edge).map fun edge => (edge.source, edge.target)

variable {Vertex : Type} [DecidableEq Vertex]

/-! ## Reachability -/

def grow (links : List (Link Vertex)) (known : List Vertex) : List Vertex :=
  links.foldl
    (fun known link =>
      if known.contains link.1 && !known.contains link.2 then known ++ [link.2] else known)
    known

def growAll (links : List (Link Vertex)) : Nat → List Vertex → List Vertex
  | 0, known => known
  | rounds + 1, known =>
    let next := grow links known
    if next.length = known.length then known else growAll links rounds next

/-- The vertices that links lead to from the given ones, these included.  Each round but the last
adds the end of another link. -/
def reachable (links : List (Link Vertex)) (starts : List Vertex) : List Vertex :=
  growAll links (links.length + 1) starts

def unreachableIds (graph : Graph) : List NodeId :=
  let known := reachable graph.links (graph.triggers.map (·.id))
  graph.ids.filter fun id => !known.contains id

/-! ## Cycles -/

def dropSources (links : List (Link Vertex)) : List (Link Vertex) :=
  links.filter fun link => links.any fun other => other.2 == link.1

def dropAllSources : Nat → List (Link Vertex) → List (Link Vertex)
  | 0, links => links
  | rounds + 1, links =>
    let next := dropSources links
    if next.length = links.length then links else dropAllSources rounds next

/-- Whether some chain of links leads back to its start: then links remain that can be followed
backward without end. -/
def isCyclic (links : List (Link Vertex)) : Bool :=
  !(dropAllSources (links.length + 1) links).isEmpty

def hasCycle (graph : Graph) : Bool := isCyclic graph.links

def diagnostics (graph : Graph) : Diagnostics where
  danglingEdges := graph.danglingEdges
  duplicateIds := graph.duplicateIds
  unreachableIds := graph.unreachableIds
  hasCycle := graph.hasCycle

end Graph

end Chatflow
