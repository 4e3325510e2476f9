import Chatflow.Proofs.Json.Value

/-!
# Records of sorted fields

In an object with sorted fields no member is repeated, so the members of a record are what is found
at their names, and the fields with other keys are kept as they are.
-/

namespace Chatflow.Json

/-- The fields that have none of the keys. -/
def Fields.without (keys : List String) (fields : Fields) : Fields :=
  fields.filter fun field => !keys.contains field.1

variable {fields : Fields} {names : List String} {key : String} {depth : Nat}

theorem Fields.get?_without :
    (fields.without names).get? key = if key ∈ names then none else fields.get? key := by
  rw [without, Fields.get?_filter fun key => !names.contains key]
  by_cases known : key ∈ names <;> simp [known]

theorem Fields.Sorted.without (sorted : fields.Sorted) : (fields.without names).Sorted :=
  sorted.filter _

namespace Document

theorem knownFields?_ofFields (distinct : (fields.map Prod.fst).Nodup) :
    knownFields? names (ofFields fields) =
      some ((fields.filter fun field => names.contains field.1).map
        fun field => (field.1, ofValue field.2)) := by
  induction fields with
  | nil => rfl
  | cons field rest ih =>
      obtain ⟨key, value⟩ := field
      obtain ⟨new, rest_distinct⟩ := List.nodup_cons.mp distinct
      rw [ofFields, knownFields?, ih rest_distinct]
      cases known : names.contains key with
      | false => simp only [known, Bool.not_false, if_true, List.filter_cons, Bool.false_eq_true,
          if_false]
      | true =>
          have unseen : List.lookup key ((rest.filter fun field => names.contains field.1).map
              fun field => (field.1, ofValue field.2)) = none := by
            rw [List.lookup_eq_none_iff]
            intro found member
            obtain ⟨field, inside, rfl⟩ := List.mem_map.mp member
            refine bne_iff_ne.mpr fun same => new ?_
            exact List.mem_map.mpr ⟨field, List.mem_of_mem_filter inside, same.symm⟩
          simp only [known, unseen, Bool.not_true, Bool.false_eq_true, if_false,
            Option.isSome_none, List.filter_cons, if_true, List.map_cons]

theorem lookup_map_ofValue :
    List.lookup key (fields.map fun field => (field.1, ofValue field.2)) =
      (fields.get? key).map ofValue := by
  induction fields with
  | nil => rfl
  | cons field rest ih =>
      obtain ⟨other, value⟩ := field
      rw [List.map_cons, List.lookup_cons, Fields.get?_cons, ih]
      by_cases same : key = other
      · simp [same]
      · have differs : (key == other) = false := beq_false_of_ne same
        simp [differs, Ne.symm same]

theorem extraFields?_ofFields (sorted : fields.Sorted)
    (all : ∀ field ∈ fields, Regular depth field.2) :
    extraFields? names depth (ofFields fields) = some (fields.without names) := by
  have kept : (ofFields fields).filter (fun field => !(field.1.any names.contains)) =
      ofFields (fields.without names) := by
    rw [ofFields_eq_map, ofFields_eq_map, List.filter_map]
    rfl
  have values : fieldValues? depth (ofFields (fields.without names)) =
      some (fields.without names) := by
    refine fieldValues?_ofFields (List.forall₂_same.mpr fun field member => ⟨rfl, ?_⟩)
    exact value?_ofValue (all field (List.mem_of_mem_filter member))
  rw [extraFields?, kept, values, Option.map_some, sortFields_of_sorted sorted.without]

theorem exists_membersAndExtra?_eq (sorted : fields.Sorted)
    (all : ∀ field ∈ fields, Regular depth field.2) :
    ∃ members, membersAndExtra? names depth (ofValue (.object fields)) =
        some (members, fields.without names) ∧
      ∀ key ∈ names, members.found.lookup key = (fields.get? key).map ofValue := by
  let known := fields.filter fun field => names.contains field.1
  refine ⟨⟨false, known.map fun field => (field.1, ofValue field.2)⟩, ?_, ?_⟩
  · rw [ofValue, membersAndExtra?, knownFields?_ofFields sorted.nodup_keys,
      extraFields?_ofFields sorted all]
  · intro key member
    have kept : Fields.get? known key = _ := Fields.get?_filter names.contains
    rw [if_pos (List.contains_iff_mem.mpr member)] at kept
    rw [lookup_map_ofValue, kept]

/-- A record is read from an object only, and its members are what the object has at their
names. -/
theorem membersAndExtra?_bind_eq_some_iff {α : Type} {json : Json} (regular : Regular depth json)
    {next : Members × Fields → Option α} {value : α} {fits : Fields → Prop}
    (each : ∀ fields members, (∀ field ∈ fields, Regular (depth - 1) field.2) →
      (∀ key ∈ names, members.found.lookup key = (fields.get? key).map ofValue) →
      (next (members, fields.without names) = some value ↔ fits fields)) :
    (membersAndExtra? names (depth - 1) (ofValue json)).bind next = some value ↔
      ∃ fields, json = .object fields ∧ fits fields := by
  cases regular with
  | null | bool | number | string | array => simp [ofValue, membersAndExtra?]
  | object sorted all =>
      rw [Nat.add_sub_cancel] at each ⊢
      obtain ⟨members, found, lookup⟩ := exists_membersAndExtra?_eq sorted all
      rw [found, Option.bind_some, each _ members all lookup]
      simp

/-! ## Values of members -/

theorem string?_ofValue_eq_some_iff {json : Json} {text : String} :
    string? (ofValue json) = some text ↔ json = .string text := by
  cases json <;> simp [ofValue, string?]

theorem bool?_ofValue_eq_some_iff {json : Json} {value : Bool} :
    bool? (ofValue json) = some value ↔ json = .bool value := by
  cases json <;> simp [ofValue, bool?]

theorem int64?_ofValue_eq_some_iff {json : Json} {n : Int64} :
    int64? (ofValue json) = some n ↔ json = .ofInt64 n := by
  cases json with
  | number value =>
      cases value with
      | whole value =>
          obtain ⟨value, inRange⟩ := value
          simp [ofValue, int64?, ofInt64, Whole.ofInt64, Decimal.int64OfInt?_eq_some_iff]
      | binary _ => simp [ofValue, int64?, ofInt64]
  | null | bool _ | string _ | array _ | object _ => simp [ofValue, int64?, ofInt64]

theorem fields?_ofValue_eq_some_iff {json : Json} (regular : Regular depth json)
    {values : Fields} : fields? depth (ofValue json) = some values ↔ json = .object values := by
  rw [fields?, value?_ofValue regular]
  cases json <;> simp [object?]

theorem list?_ofValue_eq_some_iff {α : Type} {read : Document → Option α} {json : Json}
    {values : List α} :
    list? read (ofValue json) = some values ↔ ∃ items, json = .array items ∧
      List.Forall₂ (fun item value => read (ofValue item) = some value) items values := by
  cases json with
  | array items =>
      rw [ofValue, list?, ofItems_eq_map, mapM_eq_some_iff, List.forall₂_map_left_iff]
      simp
  | null | bool _ | number _ | string _ | object _ => simp [ofValue, list?]

theorem nullable?_ofValue_eq_some_iff {α : Type} {read : Document → Option α}
    (refuses : read .null = none) {json : Json} {value : Option α} :
    nullable? read (ofValue json) = some value ↔
      json = .null ∧ value = none ∨ ∃ held, read (ofValue json) = some held ∧ value = some held := by
  cases json with
  | null => simp [ofValue, nullable?, refuses, eq_comm]
  | bool _ | number _ | string _ | array _ | object _ =>
      simp [ofValue, nullable?, eq_comm]

end Document

end Chatflow.Json
