import Chatflow.Json.Basic
import Mathlib.Data.List.Induction
import Mathlib.Data.List.Pairwise
import Mathlib.Data.List.Sort
import Mathlib.Data.String.Basic

/-!
# Sorted fields

Fields whose keys are sorted are a finite map: they are told by what is found at each key.  Putting
fields together yields sorted ones, in which each key has the last of its values.
-/

namespace Chatflow.Json

variable {fields others : Fields} {key other : String} {value : Json}

/-! ## Looking up a key -/

namespace Fields

@[simp] theorem get?_nil : get? [] key = none := rfl

theorem get?_cons {rest : Fields} :
    get? ((other, value) :: rest) key = if other = key then some value else rest.get? key := by
  rw [get?, List.find?_cons]
  by_cases same : other = key
  · simp [same]
  · have differs : (other == key) = false := beq_false_of_ne same
    simp [get?, differs, same]

theorem get?_append : get? (fields ++ others) key = (fields.get? key).or (others.get? key) := by
  rw [get?, List.find?_append, get?, get?]
  cases fields.find? fun field => field.1 == key <;> rfl

theorem mem_of_get?_eq_some (found : fields.get? key = some value) : (key, value) ∈ fields := by
  obtain ⟨⟨other, held⟩, first, rfl⟩ := Option.map_eq_some_iff.mp found
  have same : other = key := beq_iff_eq.mp (List.find?_some first :)
  rw [← same]
  exact List.mem_of_find?_eq_some first

theorem get?_eq_none_iff : fields.get? key = none ↔ ∀ field ∈ fields, field.1 ≠ key := by
  simp [get?, List.find?_eq_none]

theorem get?_filter (keep : String → Bool) :
    get? (fields.filter fun field => keep field.1) key =
      if keep key then fields.get? key else none := by
  induction fields with
  | nil => simp
  | cons field rest ih =>
      obtain ⟨other, held⟩ := field
      by_cases same : other = key
      · subst same
        cases kept : keep other <;> simp [kept, get?_cons, ih]
      · cases kept : keep other <;> simp [kept, get?_cons, same, ih]

/-! ## Sorted fields -/

/-- The keys are distinct and in order. -/
def Sorted (fields : Fields) : Prop := fields.Pairwise fun a b => a.1 < b.1

theorem Sorted.get?_eq_some_iff (sorted : fields.Sorted) :
    fields.get? key = some value ↔ (key, value) ∈ fields := by
  refine ⟨mem_of_get?_eq_some, fun member => ?_⟩
  induction fields with
  | nil => cases member
  | cons field rest ih =>
      obtain ⟨other, held⟩ := field
      obtain ⟨later, rest_sorted⟩ := List.pairwise_cons.mp sorted
      rw [get?_cons]
      cases List.mem_cons.mp member with
      | inl same =>
          cases same
          exact if_pos rfl
      | inr inside =>
          have less : other < key := later _ inside
          rw [if_neg less.ne, ih rest_sorted inside]

theorem Sorted.ext (sorted : fields.Sorted) (others_sorted : others.Sorted)
    (same : ∀ key, fields.get? key = others.get? key) : fields = others := by
  have : Std.Antisymm fun a b : String × Json => a.1 < b.1 :=
    ⟨fun _ _ less more => absurd more less.asymm⟩
  have : Std.Irrefl fun a b : String × Json => a.1 < b.1 := ⟨fun _ => lt_irrefl _⟩
  refine List.Pairwise.eq_of_mem_iff sorted others_sorted fun ⟨key, value⟩ => ?_
  rw [← sorted.get?_eq_some_iff, ← others_sorted.get?_eq_some_iff, same]

theorem Sorted.filter (sorted : fields.Sorted) (keep : String × Json → Bool) :
    Sorted (fields.filter keep) :=
  List.Pairwise.filter keep sorted

theorem Sorted.nodup_keys (sorted : fields.Sorted) : (fields.map Prod.fst).Nodup := by
  rw [List.Nodup, List.pairwise_map]
  exact sorted.imp fun less => less.ne

end Fields

/-! ## Putting fields together -/

theorem get?_put :
    Fields.get? (put other value fields) key =
      if other = key then some value else fields.get? key := by
  induction fields with
  | nil => rw [put, Fields.get?_cons]
  | cons field rest ih =>
      obtain ⟨first, held⟩ := field
      rw [put]
      split
      case isTrue less => rw [Fields.get?_cons]
      case isFalse greater =>
        split
        case isTrue same =>
          rw [Fields.get?_cons, Fields.get?_cons, same]
          split <;> rfl
        case isFalse differs =>
          rw [Fields.get?_cons, Fields.get?_cons, ih]
          by_cases same : other = key
          · rw [if_pos same, if_neg (fun equal => differs (same.trans equal.symm)), if_pos same]
          · rw [if_neg same, if_neg same]

theorem mem_put {field : String × Json} (member : field ∈ put key value fields) :
    field = (key, value) ∨ field ∈ fields := by
  induction fields with
  | nil => exact .inl (List.mem_singleton.mp member)
  | cons first rest ih =>
      obtain ⟨other, held⟩ := first
      rw [put] at member
      split at member
      · exact List.mem_cons.mp member
      · split at member
        · cases List.mem_cons.mp member with
          | inl same => exact .inl same
          | inr inside => exact .inr (.tail _ inside)
        · cases List.mem_cons.mp member with
          | inl same => exact .inr (same ▸ .head _)
          | inr inside => exact (ih inside).imp_right (.tail _)

theorem Fields.Sorted.put (sorted : fields.Sorted) : (put key value fields).Sorted := by
  induction fields with
  | nil => exact List.pairwise_singleton _ _
  | cons field rest ih =>
      obtain ⟨other, held⟩ := field
      obtain ⟨later, rest_sorted⟩ := List.pairwise_cons.mp sorted
      rw [Json.put]
      split
      case isTrue less =>
        refine List.pairwise_cons.mpr ⟨fun field member => ?_, sorted⟩
        cases List.mem_cons.mp member with
        | inl same => rwa [same]
        | inr inside => exact less.trans (later field inside)
      case isFalse greater =>
        split
        case isTrue same =>
          rw [same]
          exact List.pairwise_cons.mpr ⟨later, rest_sorted⟩
        case isFalse differs =>
          refine List.pairwise_cons.mpr ⟨fun field member => ?_, ih rest_sorted⟩
          cases mem_put member with
          | inl same =>
              rw [same]
              exact lt_of_le_of_ne (not_lt.mp greater) (Ne.symm differs)
          | inr inside => exact later field inside

@[simp] theorem sortFields_nil : sortFields [] = [] := rfl

theorem sortFields_concat (field : String × Json) :
    sortFields (fields ++ [field]) = put field.1 field.2 (sortFields fields) := by
  rw [sortFields, List.foldl_append]
  rfl

theorem sorted_sortFields (fields : Fields) : (sortFields fields).Sorted := by
  induction fields using List.reverseRecOn with
  | nil => exact .nil
  | append_singleton fields field ih =>
      rw [sortFields_concat]
      exact ih.put

theorem mem_of_mem_sortFields {field : String × Json} (member : field ∈ sortFields fields) :
    field ∈ fields := by
  induction fields using List.reverseRecOn with
  | nil => cases member
  | append_singleton fields last ih =>
      rw [sortFields_concat] at member
      cases mem_put member with
      | inl same => exact List.mem_append_right _ (same ▸ .head _)
      | inr inside => exact List.mem_append_left _ (ih inside)

theorem get?_sortFields : (sortFields fields).get? key = Fields.get? fields.reverse key := by
  induction fields using List.reverseRecOn with
  | nil => rfl
  | append_singleton fields field ih =>
      rw [sortFields_concat, get?_put, ih, List.reverse_append, List.reverse_singleton,
        List.singleton_append, Fields.get?_cons]

theorem get?_sortFields_append :
    (sortFields (fields ++ others)).get? key =
      ((sortFields others).get? key).or ((sortFields fields).get? key) := by
  simp only [get?_sortFields, List.reverse_append, Fields.get?_append]

theorem get?_sortFields_cons :
    (sortFields ((other, value) :: fields)).get? key =
      ((sortFields fields).get? key).or (if other = key then some value else none) := by
  rw [get?_sortFields, List.reverse_cons, Fields.get?_append, get?_sortFields, Fields.get?_cons,
    Fields.get?_nil]

theorem get?_reverse_of_nodup (distinct : (fields.map Prod.fst).Nodup) :
    Fields.get? fields.reverse key = fields.get? key := by
  induction fields with
  | nil => rfl
  | cons field rest ih =>
      obtain ⟨other, held⟩ := field
      obtain ⟨new, rest_distinct⟩ := List.nodup_cons.mp distinct
      rw [List.reverse_cons, Fields.get?_append, ih rest_distinct, Fields.get?_cons,
        Fields.get?_cons]
      by_cases same : other = key
      · have missing : Fields.get? rest key = none := by
          refine Fields.get?_eq_none_iff.mpr fun field member equal => new ?_
          rw [same, ← equal]
          exact List.mem_map.mpr ⟨field, member, rfl⟩
        simp [missing, same]
      · simp [same]

/-- Fields that have what sorted fields have at each key become these when they are put together. -/
theorem sortFields_eq (sorted : others.Sorted) (distinct : (fields.map Prod.fst).Nodup)
    (same : ∀ key, fields.get? key = others.get? key) : sortFields fields = others := by
  refine (sorted_sortFields fields).ext sorted fun key => ?_
  rw [get?_sortFields, get?_reverse_of_nodup distinct, same]

@[simp] theorem sortFields_of_sorted (sorted : fields.Sorted) : sortFields fields = fields :=
  sortFields_eq sorted sorted.nodup_keys fun _ => rfl

end Chatflow.Json
