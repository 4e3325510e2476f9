import Chatflow.Proofs.Graph.Chain

/-!
# Reachable vertices

The vertices that the search knows at the end are those to which some chain of links leads from a
start.  Whatever it adds is at the end of such a chain, and it goes on adding until no link leads
out of what it knows.
-/

namespace Chatflow.Graph

open Relation (ReflTransGen)

variable {Vertex : Type} [DecidableEq Vertex] {links : List (Link Vertex)}
  {known starts : List Vertex} {link : Link Vertex} {vertex : Vertex} {rounds : Nat}

/-! ## One round -/

theorem grow_cons (first : Link Vertex) (links : List (Link Vertex)) (known : List Vertex) :
    grow (first :: links) known =
      grow links (if first.1 ∈ known ∧ first.2 ∉ known then known ++ [first.2] else known) := by
  simp [grow]

theorem exists_grow_eq (links : List (Link Vertex)) (known : List Vertex) :
    ∃ added, grow links known = known ++ added ∧
      ∀ vertex ∈ added, vertex ∉ known ∧ ∃ link ∈ links, link.2 = vertex := by
  induction links generalizing known with
  | nil => exact ⟨[], by simp [grow]⟩
  | cons first links ih =>
      rw [grow_cons]
      split
      · rename_i fresh
        obtain ⟨added, grown, origin⟩ := ih (known ++ [first.2])
        refine ⟨first.2 :: added, by rw [grown, List.append_assoc]; rfl, ?_⟩
        intro vertex member
        cases member with
        | head => exact ⟨fresh.2, first, .head _, rfl⟩
        | tail _ member =>
            obtain ⟨unknown, link, inside, ends⟩ := origin vertex member
            exact ⟨fun old => unknown (List.mem_append_left _ old), link, .tail _ inside, ends⟩
      · obtain ⟨added, grown, origin⟩ := ih known
        refine ⟨added, grown, ?_⟩
        intro vertex member
        obtain ⟨unknown, link, inside, ends⟩ := origin vertex member
        exact ⟨unknown, link, .tail _ inside, ends⟩

theorem subset_grow (links : List (Link Vertex)) (known : List Vertex) :
    known ⊆ grow links known := by
  obtain ⟨added, grown, -⟩ := exists_grow_eq links known
  rw [grown]
  exact List.subset_append_left known added

theorem mem_grow_of_link (member : link ∈ links) (start : link.1 ∈ known) :
    link.2 ∈ grow links known := by
  induction links generalizing known with
  | nil => cases member
  | cons first links ih =>
      rw [grow_cons]
      cases member with
      | head =>
          apply subset_grow
          by_cases old : link.2 ∈ known <;> simp [start, old]
      | tail _ member =>
          apply ih member
          split
          · exact List.mem_append_left _ start
          · exact start

/-- What holds of the known vertices and passes along links holds of the added ones. -/
theorem forall_mem_grow {kept : Vertex → Prop}
    (passes : ∀ link ∈ links, kept link.1 → kept link.2) (holds : ∀ vertex ∈ known, kept vertex) :
    ∀ vertex ∈ grow links known, kept vertex := by
  induction links generalizing known with
  | nil => exact holds
  | cons first links ih =>
      rw [grow_cons]
      refine ih (fun link member => passes link (.tail _ member)) ?_
      split
      · rename_i fresh
        intro vertex member
        rw [List.mem_append, List.mem_singleton] at member
        rcases member with old | rfl
        · exact holds vertex old
        · exact passes first (.head _) (holds first.1 fresh.1)
      · exact holds

/-! ## All rounds -/

/-- The links whose ends are not known. -/
def unusedLinks (links : List (Link Vertex)) (known : List Vertex) : List (Link Vertex) :=
  links.filter fun link => !known.contains link.2

theorem length_unusedLinks_grow_lt (grows : (grow links known).length ≠ known.length) :
    (unusedLinks links (grow links known)).length < (unusedLinks links known).length := by
  obtain ⟨added, grown, origin⟩ := exists_grow_eq links known
  have some_added : added ≠ [] := by
    rintro rfl
    simp [grown] at grows
  obtain ⟨vertex, member⟩ := List.exists_mem_of_ne_nil added some_added
  obtain ⟨unknown, link, inside, ends⟩ := origin vertex member
  have narrower : unusedLinks links (grow links known) =
      (unusedLinks links known).filter fun link => !(grow links known).contains link.2 := by
    rw [unusedLinks, unusedLinks, List.filter_filter]
    refine List.filter_congr fun link _ => ?_
    by_cases old : link.2 ∈ known
    · have still : link.2 ∈ grow links known := subset_grow links known old
      simp [old, still]
    · simp [old]
  rw [narrower, List.length_filter_lt_length_iff_exists]
  refine ⟨link, ?_, ?_⟩
  · simp [unusedLinks, inside, ends, unknown]
  · simp [grown, ends, member]

theorem subset_growAll (links : List (Link Vertex)) (rounds : Nat) (known : List Vertex) :
    known ⊆ growAll links rounds known := by
  induction rounds generalizing known with
  | zero => exact List.Subset.refl known
  | succ rounds ih =>
      simp only [growAll]
      split
      · exact List.Subset.refl known
      · exact List.Subset.trans (subset_grow links known) (ih _)

theorem forall_mem_growAll {kept : Vertex → Prop}
    (passes : ∀ link ∈ links, kept link.1 → kept link.2) (holds : ∀ vertex ∈ known, kept vertex) :
    ∀ vertex ∈ growAll links rounds known, kept vertex := by
  induction rounds generalizing known with
  | zero => exact holds
  | succ rounds ih =>
      simp only [growAll]
      split
      · exact holds
      · exact ih (forall_mem_grow passes holds)

/-- After enough rounds no link leads out of what is known: each round but the last uses a link that
was not used before. -/
theorem mem_growAll_of_link (enough : (unusedLinks links known).length < rounds)
    (member : link ∈ links) (start : link.1 ∈ growAll links rounds known) :
    link.2 ∈ growAll links rounds known := by
  induction rounds generalizing known with
  | zero => omega
  | succ rounds ih =>
      simp only [growAll] at start ⊢
      by_cases same : (grow links known).length = known.length
      · rw [if_pos same] at start ⊢
        obtain ⟨added, grown, -⟩ := exists_grow_eq links known
        have none_added : added = [] := by simpa [grown] using same
        have complete : grow links known = known := by rw [grown, none_added, List.append_nil]
        have ends := mem_grow_of_link member start
        rwa [complete] at ends
      · rw [if_neg same] at start ⊢
        have fewer := length_unusedLinks_grow_lt same
        exact ih (by omega) start

theorem mem_reachable_iff :
    vertex ∈ reachable links starts ↔
      ∃ start ∈ starts, ReflTransGen (Linked links) start vertex := by
  constructor
  · have sound : ∀ vertex ∈ reachable links starts,
        ∃ start ∈ starts, ReflTransGen (Linked links) start vertex := by
      refine forall_mem_growAll ?_ ?_
      · rintro link member ⟨start, among, chain⟩
        exact ⟨start, among, chain.tail member⟩
      · exact fun start among => ⟨start, among, .refl⟩
    exact sound vertex
  · rintro ⟨start, among, chain⟩
    have enough : (unusedLinks links starts).length < links.length + 1 :=
      Nat.lt_succ_of_le (List.length_filter_le _ links)
    induction chain with
    | refl => exact subset_growAll links _ starts among
    | tail _ link ih => exact mem_growAll_of_link enough link ih

end Chatflow.Graph
