import Chatflow.Proofs.FirstOccurrence
import Chatflow.Proofs.Graph.Reachability

/-!
# What diagnostics find

The diagnostics of a graph are said without the searches that compute them: by edges between nodes
and the chains of such edges.
-/

namespace Chatflow

open Relation (ReflTransGen TransGen)

/-! ## Edges between nodes -/

namespace Graph

/-- Some node has the id. -/
def HasId (graph : Graph) (id : NodeId) : Prop := ∃ node ∈ graph.nodes, node.id = id

instance (graph : Graph) (id : NodeId) : Decidable (graph.HasId id) :=
  inferInstanceAs (Decidable (∃ node ∈ graph.nodes, node.id = id))

/-- Some edge leads from the one id to the other, and nodes have both. -/
def Joins (graph : Graph) (first last : NodeId) : Prop :=
  ∃ edge ∈ graph.edges, graph.HasId edge.source ∧ graph.HasId edge.target ∧
    edge.source = first ∧ edge.target = last

/-- A chain of edges leads to the id from the id of some trigger. -/
def IsLive (graph : Graph) (id : NodeId) : Prop :=
  ∃ trigger ∈ graph.nodes, trigger.kind.isTrigger = true ∧ ReflTransGen graph.Joins trigger.id id

variable {graph : Graph} {id : NodeId}

theorem linked_links_eq : Linked graph.links = graph.Joins := by
  funext first last
  simp only [linked_links_iff, mem_ids_iff]
  rfl

theorem IsLive.of_trigger {trigger : Node} (member : trigger ∈ graph.nodes)
    (kind : trigger.kind.isTrigger = true) : graph.IsLive trigger.id :=
  ⟨trigger, member, kind, .refl⟩

theorem IsLive.joins {last : NodeId} (live : graph.IsLive id) (joins : graph.Joins id last) :
    graph.IsLive last := by
  obtain ⟨trigger, member, kind, chain⟩ := live
  exact ⟨trigger, member, kind, chain.tail joins⟩

end Graph

/-! ## Findings -/

/-- The diagnostics of a graph report what there is to report about its edges and ids. -/
structure Diagnostics.IsExact (graph : Graph) (diagnostics : Diagnostics) : Prop where
  danglingEdges : diagnostics.danglingEdges =
    graph.edges.filter fun edge => decide ¬(graph.HasId edge.source ∧ graph.HasId edge.target)
  hasCycle : diagnostics.hasCycle = true ↔ ∃ id, TransGen graph.Joins id id
  mem_unreachableIds : ∀ id,
    id ∈ diagnostics.unreachableIds ↔ graph.HasId id ∧ ¬graph.IsLive id
  ordered_unreachableIds : InFirstOrder (graph.nodes.map Node.id) diagnostics.unreachableIds

namespace Graph

variable {graph : Graph} {id : NodeId}

theorem danglingEdges_eq : graph.danglingEdges =
    graph.edges.filter fun edge => decide ¬(graph.HasId edge.source ∧ graph.HasId edge.target) := by
  refine List.filter_congr fun edge _ => ?_
  rw [Bool.eq_iff_iff, decide_eq_true_iff, ← Bool.not_eq_false, isDangling_eq_false_iff, mem_ids_iff,
    mem_ids_iff]
  rfl

theorem hasCycle_iff : graph.hasCycle = true ↔ ∃ id, TransGen graph.Joins id id := by
  rw [hasCycle, isCyclic_iff, linked_links_eq]

theorem mem_reachable_triggers_iff :
    id ∈ reachable graph.links (graph.triggers.map (·.id)) ↔ graph.IsLive id := by
  rw [mem_reachable_iff, linked_links_eq]
  simp [triggers, IsLive, and_assoc]

theorem mem_unreachableIds_iff :
    id ∈ graph.unreachableIds ↔ graph.HasId id ∧ ¬graph.IsLive id := by
  simp only [unreachableIds, List.mem_filter, mem_ids_iff, Bool.not_eq_true', List.contains_eq_mem,
    decide_eq_false_iff_not, mem_reachable_triggers_iff, HasId]

theorem inFirstOrder_unreachableIds :
    InFirstOrder (graph.nodes.map Node.id) graph.unreachableIds :=
  (inFirstOrder_eraseDups _).sublist List.filter_sublist

theorem isExact_diagnostics (graph : Graph) : graph.diagnostics.IsExact graph :=
  ⟨danglingEdges_eq, hasCycle_iff, fun _ => mem_unreachableIds_iff, inFirstOrder_unreachableIds⟩

end Graph

end Chatflow
