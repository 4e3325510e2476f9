import Chatflow.Proofs.Graph.Findings

/-!
# Diagnostics by numbers

Libraries for graphs know vertices by their numbers.  The ids of a graph may be numbered in any
order, searched by number, and gone through in any other order again: the diagnostics that come out
are the same.
-/

namespace Chatflow

open Chatflow.Graph (Link Linked)
open Relation (ReflTransGen TransGen)

/-! ## Searches by number -/

/-- The searches of a library for graphs, of which it is given the links. -/
structure GraphSearch where
  /-- The vertices that a search comes to from a start. -/
  visited (links : List (Link Nat)) (start : Nat) : List Nat
  isCyclic (links : List (Link Nat)) : Bool

/-- The searches find what they are for. -/
structure GraphSearch.IsSound (search : GraphSearch) : Prop where
  mem_visited_iff : ∀ links start number,
    number ∈ search.visited links start ↔ ReflTransGen (Linked links) start number
  isCyclic_iff : ∀ links,
    search.isCyclic links = true ↔ ∃ number, TransGen (Linked links) number number

def GraphSearch.byClosure : GraphSearch where
  visited links start := Graph.reachable links [start]
  isCyclic := Graph.isCyclic

theorem GraphSearch.isSound_byClosure : byClosure.IsSound where
  mem_visited_iff links start number := by simp [byClosure, Graph.mem_reachable_iff]
  isCyclic_iff _ := Graph.isCyclic_iff

namespace Graph

/-- The link between the numbers of the ends of an edge, if both have one. -/
def numberedLink? (numbering : List NodeId) (edge : Edge) : Option (Link Nat) :=
  (numbering.idxOf? edge.source).bind fun source =>
    (numbering.idxOf? edge.target).map fun target => (source, target)

/-- The diagnostics where ids are searched by their numbers and then gone through as listed. -/
def numberedDiagnostics (graph : Graph) (search : GraphSearch) (numbering listing : List NodeId) :
    Diagnostics :=
  let links := graph.edges.filterMap (numberedLink? numbering)
  let starts := graph.triggers.filterMap fun trigger => numbering.idxOf? trigger.id
  let reached := starts.flatMap (search.visited links)
  let unreached := listing.filter fun id => !(numbering.idxOf? id).any fun number =>
    reached.contains number
  let position (id : NodeId) : Nat := (graph.nodes.map Node.id).idxOf id
  { danglingEdges := graph.edges.filter fun edge => (numberedLink? numbering edge).isNone
    duplicateIds := graph.duplicateIds
    unreachableIds := unreached.mergeSort fun first second => position first ≤ position second
    hasCycle := search.isCyclic links }

/-! ## Chains of numbers -/

section Chains

variable {Vertex : Type} {links : List (Link Vertex)} {number : Vertex → Nat}
  {numbered : List Vertex} {start : Vertex} {i j : Nat}

theorem linked_map_iff :
    Linked (links.map (Prod.map number number)) i j ↔
      ∃ first last, Linked links first last ∧ number first = i ∧ number last = j := by
  simp [Linked]

theorem linked_le_linked_map :
    ∀ first last, Linked links first last →
      Linked (links.map (Prod.map number number)) (number first) (number last) :=
  fun first last link => linked_map_iff.mpr ⟨first, last, link, rfl, rfl⟩

variable (injective : ∀ first ∈ numbered, ∀ second ∈ numbered,
    number first = number second → first = second)
  (ends : ∀ first last, Linked links first last → first ∈ numbered ∧ last ∈ numbered)
include injective ends

theorem exists_chain_of_numbers (member : start ∈ numbered)
    (chain : ReflTransGen (Linked (links.map (Prod.map number number))) (number start) j) :
    ∃ last ∈ numbered, number last = j ∧ ReflTransGen (Linked links) start last := by
  induction chain with
  | refl => exact ⟨start, member, rfl, .refl⟩
  | tail _ link ih =>
      obtain ⟨middle, inside, here, chain⟩ := ih
      obtain ⟨first, last, step, there, rfl⟩ := linked_map_iff.mp link
      obtain ⟨left, right⟩ := ends first last step
      have same := injective first left middle inside (there.trans here.symm)
      exact ⟨last, right, rfl, chain.tail (same ▸ step)⟩

theorem exists_closed_iff_numbers :
    (∃ i, TransGen (Linked (links.map (Prod.map number number))) i i) ↔
      ∃ vertex, TransGen (Linked links) vertex vertex := by
  constructor
  · rintro ⟨i, closed⟩
    obtain ⟨j, link, back⟩ := TransGen.head'_iff.mp closed
    obtain ⟨first, second, step, rfl, rfl⟩ := linked_map_iff.mp link
    obtain ⟨left, right⟩ := ends first second step
    obtain ⟨last, inside, here, chain⟩ := exists_chain_of_numbers injective ends right back
    have same := injective last inside first left here
    exact ⟨first, TransGen.head'_iff.mpr ⟨second, step, same ▸ chain⟩⟩
  · rintro ⟨vertex, closed⟩
    exact ⟨number vertex, TransGen.lift number linked_le_linked_map _ _ closed⟩

end Chains

/-! ## Any numbering -/

variable {graph : Graph} {search : GraphSearch} {numbering listing : List NodeId} {id : NodeId}

theorem idxOf?_eq_some_idxOf (known : id ∈ numbering) :
    numbering.idxOf? id = some (numbering.idxOf id) := by
  cases found : numbering.idxOf? id with
  | none => exact absurd known (List.idxOf?_eq_none_iff.mp found)
  | some number => rw [List.idxOf_eq_getD_idxOf?, found, Option.getD_some]

theorem numberedLink?_eq (numbered : numbering.Perm graph.ids) (edge : Edge) :
    numberedLink? numbering edge =
      if graph.isDangling edge then none
      else some (numbering.idxOf edge.source, numbering.idxOf edge.target) := by
  have unknown {id : NodeId} (missing : id ∉ graph.ids) : numbering.idxOf? id = none :=
    List.idxOf?_eq_none_iff.mpr fun known => missing (numbered.mem_iff.mp known)
  by_cases ends : edge.source ∈ graph.ids ∧ edge.target ∈ graph.ids
  · rw [isDangling_eq_false_iff.mpr ends, numberedLink?,
      idxOf?_eq_some_idxOf (numbered.mem_iff.mpr ends.1),
      idxOf?_eq_some_idxOf (numbered.mem_iff.mpr ends.2)]
    rfl
  · have dangling : graph.isDangling edge = true := by
      rwa [← Bool.not_eq_false, isDangling_eq_false_iff]
    rw [dangling, if_pos rfl, numberedLink?]
    by_cases source : edge.source ∈ graph.ids
    · rw [unknown fun target => ends ⟨source, target⟩]
      cases numbering.idxOf? edge.source <;> rfl
    · rw [unknown source]
      rfl

theorem filterMap_numberedLink?_eq (numbered : numbering.Perm graph.ids) :
    graph.edges.filterMap (numberedLink? numbering) =
      graph.links.map (Prod.map numbering.idxOf numbering.idxOf) := by
  rw [funext (numberedLink?_eq numbered), links, List.map_map]
  induction graph.edges with
  | nil => rfl
  | cons edge edges ih =>
      rw [List.filterMap_cons, List.filter_cons]
      cases graph.isDangling edge <;> simp [ih]

theorem idxOf_injective (first : NodeId) (left : first ∈ numbering) (second : NodeId)
    (_ : second ∈ numbering) (same : numbering.idxOf first = numbering.idxOf second) :
    first = second :=
  (List.idxOf_inj left).mp same

theorem ends_of_linked (numbered : numbering.Perm graph.ids) (first last : NodeId)
    (link : Linked graph.links first last) : first ∈ numbering ∧ last ∈ numbering := by
  obtain ⟨edge, -, source, target, rfl, rfl⟩ := linked_links_iff.mp link
  exact ⟨numbered.mem_iff.mpr source, numbered.mem_iff.mpr target⟩

theorem chain_numbers_iff (numbered : numbering.Perm graph.ids) {start : NodeId}
    (first : start ∈ numbering) (last : id ∈ numbering) :
    ReflTransGen (Linked (graph.links.map (Prod.map numbering.idxOf numbering.idxOf)))
        (numbering.idxOf start) (numbering.idxOf id) ↔
      ReflTransGen (Linked graph.links) start id := by
  constructor
  · intro chain
    obtain ⟨other, inside, same, found⟩ :=
      exists_chain_of_numbers idxOf_injective (ends_of_linked numbered) first chain
    rwa [idxOf_injective other inside id last same] at found
  · exact fun chain => ReflTransGen.lift numbering.idxOf linked_le_linked_map _ _ chain

/-- The numbers that searches from the triggers come to are those of the ids that are live. -/
theorem mem_visited_triggers_iff (sound : search.IsSound) (numbered : numbering.Perm graph.ids)
    (known : id ∈ numbering) :
    numbering.idxOf id ∈ (graph.triggers.filterMap fun trigger => numbering.idxOf? trigger.id).flatMap
        (search.visited (graph.links.map (Prod.map numbering.idxOf numbering.idxOf))) ↔
      graph.IsLive id := by
  rw [← mem_reachable_triggers_iff, mem_reachable_iff]
  simp only [List.mem_flatMap, List.mem_filterMap, List.mem_map, sound.mem_visited_iff]
  have numbers {trigger : Node} (member : trigger ∈ graph.triggers) : trigger.id ∈ numbering :=
    numbered.mem_iff.mpr (mem_ids_iff.mpr ⟨trigger, List.mem_of_mem_filter member, rfl⟩)
  constructor
  · rintro ⟨start, ⟨trigger, member, found⟩, chain⟩
    rw [idxOf?_eq_some_idxOf (numbers member), Option.some.injEq] at found
    subst found
    exact ⟨trigger.id, ⟨trigger, member, rfl⟩,
      (chain_numbers_iff numbered (numbers member) known).mp chain⟩
  · rintro ⟨_, ⟨trigger, member, rfl⟩, chain⟩
    exact ⟨_, ⟨trigger, member, idxOf?_eq_some_idxOf (numbers member)⟩,
      (chain_numbers_iff numbered (numbers member) known).mpr chain⟩

theorem numberedDiagnostics_eq (sound : search.IsSound) (numbered : numbering.Perm graph.ids)
    (listed : listing.Perm graph.ids) :
    graph.numberedDiagnostics search numbering listing = graph.diagnostics := by
  have danglingEdges : (graph.edges.filter fun edge => (numberedLink? numbering edge).isNone) =
      graph.danglingEdges := by
    refine List.filter_congr fun edge _ => ?_
    rw [numberedLink?_eq numbered]
    cases graph.isDangling edge <;> rfl
  have hasCycle : search.isCyclic
      (graph.links.map (Prod.map numbering.idxOf numbering.idxOf)) = graph.hasCycle := by
    rw [Bool.eq_iff_iff, sound.isCyclic_iff, Graph.hasCycle, isCyclic_iff]
    exact exists_closed_iff_numbers idxOf_injective (ends_of_linked numbered)
  rw [numberedDiagnostics, filterMap_numberedLink?_eq numbered, danglingEdges, hasCycle]
  simp only [diagnostics, Diagnostics.mk.injEq, true_and, and_true]
  have inside : ∀ id ∈ graph.unreachableIds, id ∈ graph.nodes.map Node.id := by
    intro id member
    obtain ⟨node, known, same⟩ := (mem_unreachableIds_iff.mp member).1
    exact List.mem_map.mpr ⟨node, known, same⟩
  refine inFirstOrder_unreachableIds.mergeSort_eq inside ?_
  refine (listed.filter _).trans (.of_eq (List.filter_congr fun id member => ?_))
  have known : id ∈ numbering := numbered.mem_iff.mpr member
  have reached := (mem_visited_triggers_iff sound numbered known).trans
    mem_reachable_triggers_iff.symm
  simp only [idxOf?_eq_some_idxOf known, Option.any_some, List.contains_eq_mem]
  exact congrArg (!·) (decide_eq_decide.mpr reached)

/-- The diagnostics of a graph are exact, and searches by number give the same ones in whichever
orders the ids are numbered and gone through. -/
theorem diagnostics_isExact_and_eq_numbered (graph : Graph) :
    graph.diagnostics.IsExact graph ∧
      ∀ (search : GraphSearch) (numbering listing : List NodeId), search.IsSound →
        numbering.Perm graph.ids → listing.Perm graph.ids →
        graph.numberedDiagnostics search numbering listing = graph.diagnostics :=
  ⟨graph.isExact_diagnostics, fun _ _ _ sound numbered listed =>
    numberedDiagnostics_eq sound numbered listed⟩

theorem diagnostics_isExact_and_eq_numbered_backward :
    let start : Node := ⟨"start", "Command", .trigger (.ofConfig "Command" [])⟩
    let menu : Node := ⟨"menu", "Send Message", .action (.sendMessage "Choose" [])⟩
    let help : Node := ⟨"help", "Send Message", .action (.sendMessage "Help" [])⟩
    let graph : Graph := {
      nodes := [help, start, menu, help]
      edges := [{ source := "start", target := "menu" }, { source := "menu", target := "menu" },
        { source := "menu", target := "end" }] }
    let backward := ["menu", "start", "help"]
    backward.Perm graph.ids ∧
      graph.numberedDiagnostics .byClosure backward backward = {
        danglingEdges := [{ source := "menu", target := "end" }]
        duplicateIds := ["help"]
        unreachableIds := ["help"]
        hasCycle := true } := by
  intro start menu help graph backward
  have listed : backward.Perm graph.ids := by decide
  have same := (diagnostics_isExact_and_eq_numbered graph).2 .byClosure backward backward
    GraphSearch.isSound_byClosure listed listed
  exact ⟨listed, same.trans (by decide +kernel)⟩

end Graph

end Chatflow
