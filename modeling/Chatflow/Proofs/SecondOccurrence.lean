import Mathlib.Data.List.Basic
import Mathlib.Data.List.Nodup

/-!
# Lists in the order of second occurrence

Values that are taken again are reported once each, when they come for the second time.  A list that
grows so along with the whole stays the only one of its kind.
-/

namespace Chatflow

variable {α : Type} [DecidableEq α] {whole listed other : List α} {value : α}

/-- The values that occur at least twice in the whole are listed once each, in the order in which
they occur there for the second time. -/
structure InSecondOrder (whole listed : List α) : Prop where
  mem_iff : ∀ value, value ∈ listed ↔ 2 ≤ whole.count value
  ordered : listed.Pairwise fun first second => whole.idxOfNth first 1 < whole.idxOfNth second 1

theorem idxOfNth_append_of_lt_count {n : Nat} (more : List α) (enough : n < whole.count value) :
    (whole ++ more).idxOfNth value n = whole.idxOfNth value n := by
  induction whole generalizing n with
  | nil => simp at enough
  | cons first whole ih => by_cases same : first = value <;> cases n <;> grind

theorem idxOfNth_concat_of_count_eq {n : Nat} (exactly : whole.count value = n) :
    (whole ++ [value]).idxOfNth value n = whole.length := by
  induction whole generalizing n with
  | nil => subst exactly; simp
  | cons first whole ih => by_cases same : first = value <;> cases n <;> grind

namespace InSecondOrder

theorem nil : InSecondOrder ([] : List α) [] := ⟨by simp, .nil⟩

theorem nodup (inOrder : InSecondOrder whole listed) : listed.Nodup := by
  refine List.Pairwise.imp ?_ inOrder.ordered
  rintro first second before rfl
  exact Nat.lt_irrefl _ before

/-- A value is reported when it is there already and has not been reported. -/
theorem concat (inOrder : InSecondOrder whole listed) (value : α) :
    InSecondOrder (whole ++ [value])
      (if value ∈ whole ∧ value ∉ listed then listed ++ [value] else listed) := by
  have counted (other : α) :
      (whole ++ [value]).count other = whole.count other + if value = other then 1 else 0 := by
    simp [List.count_singleton]
  have kept : listed.Pairwise fun first second =>
      (whole ++ [value]).idxOfNth first 1 < (whole ++ [value]).idxOfNth second 1 := by
    refine List.Pairwise.imp_of_mem ?_ inOrder.ordered
    intro first second left right before
    rwa [idxOfNth_append_of_lt_count _ ((inOrder.mem_iff first).mp left),
      idxOfNth_append_of_lt_count _ ((inOrder.mem_iff second).mp right)]
  by_cases again : value ∈ whole ∧ value ∉ listed
  · obtain ⟨old, unlisted⟩ := again
    have once : whole.count value = 1 := by
      have := List.count_pos_iff.mpr old
      have := mt (inOrder.mem_iff value).mpr unlisted
      omega
    rw [if_pos ⟨old, unlisted⟩]
    refine ⟨fun other => ?_, List.pairwise_append.mpr ⟨kept, List.pairwise_singleton _ _, ?_⟩⟩
    · rw [List.mem_append, List.mem_singleton, inOrder.mem_iff, counted]
      by_cases same : other = value
      · subst same
        simp [once]
      · simp [same, Ne.symm same]
    · intro first left second right
      have twice := (inOrder.mem_iff first).mp left
      rw [List.mem_singleton.mp right, idxOfNth_concat_of_count_eq once,
        idxOfNth_append_of_lt_count _ twice]
      exact List.idxOfNth_lt_length_of_lt_count twice
  · rw [if_neg again]
    refine ⟨fun other => ?_, kept⟩
    rw [inOrder.mem_iff, counted]
    by_cases same : value = other
    · subst same
      have := List.count_pos_iff (l := whole) (a := value)
      have := inOrder.mem_iff value
      grind
    · simp [same]

/-- There is only one such list. -/
theorem unique (first : InSecondOrder whole listed) (second : InSecondOrder whole other) :
    listed = other := by
  have same : listed.Perm other := by
    rw [List.perm_ext_iff_of_nodup first.nodup second.nodup]
    exact fun value => (first.mem_iff value).trans (second.mem_iff value).symm
  refine List.Perm.eq_of_pairwise ?_ first.ordered second.ordered same
  intro left right _ _ before after
  exact absurd (Nat.lt_trans before after) (Nat.lt_irrefl _)

end InSecondOrder

end Chatflow
