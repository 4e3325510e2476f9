import Mathlib.Data.List.Basic
import Mathlib.Data.List.Induction

/-!
# Lists in the order of first occurrence

Ids are reported once each, in the order in which they first come in some longer list.  There is
only one way to list given ids so.
-/

namespace Chatflow

variable {α : Type} [DecidableEq α] {whole listed other : List α}

/-- The values are listed once each, in the order in which they first occur in the whole. -/
def InFirstOrder (whole listed : List α) : Prop :=
  listed.Pairwise fun first second => whole.idxOf first < whole.idxOf second

theorem InFirstOrder.nodup (ordered : InFirstOrder whole listed) : listed.Nodup := by
  refine List.Pairwise.imp ?_ ordered
  rintro first second before rfl
  exact Nat.lt_irrefl _ before

theorem InFirstOrder.sublist (ordered : InFirstOrder whole listed) (part : other.Sublist listed) :
    InFirstOrder whole other :=
  List.Pairwise.sublist part ordered

theorem eraseDups_concat (whole : List α) (value : α) :
    (whole ++ [value]).eraseDups =
      if value ∈ whole then whole.eraseDups else whole.eraseDups ++ [value] := by
  rw [List.eraseDups_append]
  split
  · rename_i old
    simp [List.removeAll, old]
  · rename_i fresh
    simp [List.removeAll, fresh, List.eraseDups_cons]

theorem inFirstOrder_eraseDups (whole : List α) : InFirstOrder whole whole.eraseDups := by
  induction whole using List.reverseRecOn with
  | nil => exact .nil
  | append_singleton whole value ih =>
      have kept : InFirstOrder (whole ++ [value]) whole.eraseDups := by
        refine List.Pairwise.imp_of_mem ?_ ih
        intro first second left right before
        rwa [List.idxOf_append_of_mem (List.mem_eraseDups.mp left),
          List.idxOf_append_of_mem (List.mem_eraseDups.mp right)]
      rw [eraseDups_concat]
      split
      · exact kept
      · rename_i fresh
        refine List.pairwise_append.mpr ⟨kept, List.pairwise_singleton _ _, ?_⟩
        intro first left second right
        have inside := List.mem_eraseDups.mp left
        rw [List.mem_singleton.mp right, List.idxOf_append_of_mem inside,
          List.idxOf_append_of_notMem fresh]
        exact Nat.lt_add_right _ (List.idxOf_lt_length_iff.mpr inside)

/-- Sorted by their first occurrence, the same values in any order come out in the order of first
occurrence. -/
theorem InFirstOrder.mergeSort_eq (ordered : InFirstOrder whole listed)
    (inside : ∀ value ∈ listed, value ∈ whole) (same : other.Perm listed) :
    other.mergeSort (fun first second => whole.idxOf first ≤ whole.idxOf second) = listed := by
  have sorted : (other.mergeSort fun first second =>
      whole.idxOf first ≤ whole.idxOf second).Pairwise fun first second =>
        whole.idxOf first ≤ whole.idxOf second := by
    refine (List.pairwise_mergeSort ?_ ?_ other).imp of_decide_eq_true
    · simpa using fun _ _ _ => Nat.le_trans
    · simpa using fun _ _ => Nat.le_total _ _
  refine List.Perm.eq_of_pairwise ?_ sorted (ordered.imp Nat.le_of_lt)
    ((List.mergeSort_perm other _).trans same)
  intro first second left right before after
  exact ((List.idxOf_inj (inside second right)).mp (Nat.le_antisymm after before)).symm

end Chatflow
