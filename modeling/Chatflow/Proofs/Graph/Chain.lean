import Chatflow.Graph.Diagnostics
import Mathlib.Data.Set.Finite.Basic
import Mathlib.Logic.Relation
import Mathlib.Order.WellFounded

/-!
# Chains of links

Links follow each other in chains.  A chain that closes is found by the analysis: no link on it is
ever dropped, since each follows another one on the chain.  And where the analysis is left with
links that can be followed backward without end, some chain closes, since there are only so many of
them.
-/

namespace Chatflow.Graph

open Relation (ReflTransGen TransGen)

variable {graph : Graph} {Vertex : Type} {links : List (Link Vertex)} {a b : Vertex}

/-! ## Ids and links -/

theorem mem_ids_iff {id : NodeId} : id ∈ graph.ids ↔ ∃ node ∈ graph.nodes, node.id = id := by
  simp [ids]

theorem isDangling_eq_false_iff {edge : Edge} :
    graph.isDangling edge = false ↔ edge.source ∈ graph.ids ∧ edge.target ∈ graph.ids := by
  simp [isDangling]

theorem mem_danglingEdges_iff {edge : Edge} :
    edge ∈ graph.danglingEdges ↔
      edge ∈ graph.edges ∧ ¬ (edge.source ∈ graph.ids ∧ edge.target ∈ graph.ids) := by
  rw [danglingEdges, List.mem_filter, ← isDangling_eq_false_iff, Bool.not_eq_false]

/-- The links lead from the one vertex to the other at once. -/
def Linked (links : List (Link Vertex)) (a b : Vertex) : Prop := (a, b) ∈ links

theorem linked_links_iff {first last : NodeId} :
    Linked graph.links first last ↔
      ∃ edge ∈ graph.edges, edge.source ∈ graph.ids ∧ edge.target ∈ graph.ids ∧
        edge.source = first ∧ edge.target = last := by
  simp [Linked, links, isDangling, and_assoc]

theorem linked_of_edge {edge : Edge} (member : edge ∈ graph.edges)
    (source : edge.source ∈ graph.ids) (target : edge.target ∈ graph.ids) :
    Linked graph.links edge.source edge.target :=
  linked_links_iff.mpr ⟨edge, member, source, target, rfl, rfl⟩

/-! ## Closed chains -/

/-- The link is on a chain that closes. -/
def OnClosedChain (links : List (Link Vertex)) (link : Link Vertex) : Prop :=
  link ∈ links ∧ ReflTransGen (Linked links) link.2 link.1

theorem OnClosedChain.exists_before {link : Link Vertex} (closed : OnClosedChain links link) :
    ∃ other, OnClosedChain links other ∧ other.2 = link.1 := by
  obtain ⟨member, back⟩ := closed
  cases ReflTransGen.cases_tail back with
  | inl same => exact ⟨link, ⟨member, back⟩, same.symm⟩
  | inr last =>
      obtain ⟨middle, chain, final⟩ := last
      exact ⟨(middle, link.1), ⟨final, .head member chain⟩, rfl⟩

/-- If no chain closed, then some link would come before all others, and follow none of them. -/
theorem exists_closed_of_followed (some_left : links ≠ [])
    (followed : ∀ link ∈ links, ∃ other ∈ links, other.2 = link.1) :
    ∃ vertex, TransGen (Linked links) vertex vertex := by
  by_contra! never
  let before (first second : { link // link ∈ links }) : Prop :=
    TransGen (Linked links) first.1.1 second.1.1
  have transitive : IsTrans _ before := ⟨fun _ _ _ => TransGen.trans⟩
  have finite : Finite { link // link ∈ links } := (List.finite_toSet links).to_subtype
  have irreflexive : Std.Irrefl before := ⟨fun link => never link.1.1⟩
  have wellFounded := Finite.wellFounded_of_trans_of_irrefl before
  obtain ⟨start, inside⟩ := List.exists_mem_of_ne_nil links some_left
  obtain ⟨first, -, least⟩ := wellFounded.has_min Set.univ ⟨⟨start, inside⟩, trivial⟩
  obtain ⟨other, member, joined⟩ := followed first.1 first.2
  have link : Linked links other.1 first.1.1 := joined ▸ member
  exact least ⟨other, member⟩ trivial (.single link)

/-! ## The analysis -/

variable [DecidableEq Vertex]

theorem mem_dropSources_of_followed {kept : Link Vertex → Prop}
    (inside : ∀ link, kept link → link ∈ links)
    (followed : ∀ link, kept link → ∃ other, kept other ∧ other.2 = link.1) :
    ∀ link, kept link → link ∈ dropSources links := by
  intro link member
  obtain ⟨other, earlier, joined⟩ := followed link member
  have ended : (links.any fun other => other.2 == link.1) = true :=
    List.any_eq_true.mpr ⟨other, inside other earlier, beq_iff_eq.mpr joined⟩
  exact List.mem_filter.mpr ⟨inside link member, ended⟩

theorem mem_dropAllSources_of_followed {kept : Link Vertex → Prop}
    (followed : ∀ link, kept link → ∃ other, kept other ∧ other.2 = link.1) (rounds : Nat)
    (inside : ∀ link, kept link → link ∈ links) :
    ∀ link, kept link → link ∈ dropAllSources rounds links := by
  induction rounds generalizing links with
  | zero => exact inside
  | succ rounds ih =>
      simp only [dropAllSources]
      split
      · exact inside
      · exact ih (mem_dropSources_of_followed inside followed)

theorem dropAllSources_subset (rounds : Nat) (links : List (Link Vertex)) :
    dropAllSources rounds links ⊆ links := by
  induction rounds generalizing links with
  | zero => exact List.Subset.refl links
  | succ rounds ih =>
      simp only [dropAllSources]
      split
      · exact List.Subset.refl links
      · exact List.Subset.trans (ih _) List.filter_sublist.subset

/-- Each round but the last drops a link, so that with more rounds than links none is left that does
not follow another one. -/
theorem followed_dropAllSources {rounds : Nat} (enough : links.length < rounds) :
    ∀ link ∈ dropAllSources rounds links,
      ∃ other ∈ dropAllSources rounds links, other.2 = link.1 := by
  induction rounds generalizing links with
  | zero => omega
  | succ rounds ih =>
      simp only [dropAllSources]
      by_cases unchanged : (dropSources links).length = links.length
      · rw [if_pos unchanged]
        have followed := List.length_filter_eq_length_iff.mp unchanged
        intro link member
        simpa using followed link member
      · rw [if_neg unchanged]
        have shorter : (dropSources links).length ≤ links.length := List.length_filter_le _ links
        exact ih (by omega)

theorem isCyclic_iff :
    isCyclic links = true ↔ ∃ vertex, TransGen (Linked links) vertex vertex := by
  rw [isCyclic, Bool.not_eq_true', List.isEmpty_eq_false_iff]
  constructor
  · intro some_left
    have followed := followed_dropAllSources (Nat.lt_succ_self links.length)
    obtain ⟨vertex, closed⟩ := exists_closed_of_followed some_left followed
    have inside : Linked (dropAllSources (links.length + 1) links) ≤ Linked links :=
      fun _ _ member => dropAllSources_subset _ links member
    exact ⟨vertex, TransGen.mono inside _ _ closed⟩
  · rintro ⟨vertex, closed⟩
    obtain ⟨next, first, back⟩ := TransGen.head'_iff.mp closed
    have kept := mem_dropAllSources_of_followed (fun _ => OnClosedChain.exists_before)
      (links.length + 1) (fun _ closed => closed.1) (vertex, next) ⟨first, back⟩
    exact List.ne_nil_of_mem kept

end Chatflow.Graph
