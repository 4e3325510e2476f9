import Chatflow.Json.Reader
import Chatflow.Json.Record
import Chatflow.Proofs.Json.Fields
import Mathlib.Data.List.Forall2

/-!
# Values of documents

The value of a document has sorted fields and nests no deeper than was allowed, and a value of this
kind is the value of the document that says it.
-/

namespace Chatflow.Json

/-- Values as they are read: their fields are sorted, and they nest no deeper than a depth. -/
inductive Regular : Nat → Json → Prop
  | null {depth : Nat} : Regular depth .null
  | bool {depth : Nat} (value : Bool) : Regular depth (.bool value)
  | number {depth : Nat} (value : Number) : Regular depth (.number value)
  | string {depth : Nat} (value : String) : Regular depth (.string value)
  | array {depth : Nat} {items : List Json} (all : ∀ item ∈ items, Regular depth item) :
      Regular (depth + 1) (.array items)
  | object {depth : Nat} {fields : Fields} (sorted : fields.Sorted)
      (all : ∀ field ∈ fields, Regular depth field.2) : Regular (depth + 1) (.object fields)

theorem Regular.mono {depth deeper : Nat} {json : Json} (regular : Regular depth json)
    (more : depth ≤ deeper) : Regular deeper json := by
  induction regular generalizing deeper with
  | null => exact .null
  | bool value => exact .bool value
  | number value => exact .number value
  | string value => exact .string value
  | array all ih =>
      obtain ⟨deeper, rfl⟩ := Nat.exists_eq_add_of_lt more
      exact .array fun item member => ih item member (by omega)
  | object sorted all ih =>
      obtain ⟨deeper, rfl⟩ := Nat.exists_eq_add_of_lt more
      exact .object sorted fun field member => ih field member (by omega)

theorem Regular.get? {depth : Nat} {fields : Fields} {key : String} {value : Json}
    (all : ∀ field ∈ fields, Regular depth field.2) (found : fields.get? key = some value) :
    Regular depth value :=
  all _ (Fields.mem_of_get?_eq_some found)

theorem forall_mem_of_forall₂ {α β : Type} {related : α → β → Prop} {fits : β → Prop}
    {items : List α} {values : List β} (each : List.Forall₂ related items values)
    (fit : ∀ item ∈ items, ∀ value, related item value → fits value) :
    ∀ value ∈ values, fits value := by
  induction each with
  | nil => exact nofun
  | cons first rest ih =>
      rw [List.forall_mem_cons]
      exact ⟨fit _ (.head _) _ first, ih fun item member => fit item (.tail _ member)⟩

namespace Document

variable {depth : Nat}

/-! ## Lists of documents -/

theorem itemValues?_eq_mapM (items : List Document) :
    itemValues? depth items = items.mapM (value? depth) := by
  induction items with
  | nil => rfl
  | cons item items ih =>
      rw [itemValues?, ih, List.mapM_cons]
      cases value? depth item <;> cases List.mapM (value? depth) items <;> rfl

theorem mapM_eq_some_iff {α β : Type} {read : α → Option β} {items : List α} {values : List β} :
    items.mapM read = some values ↔
      List.Forall₂ (fun item value => read item = some value) items values := by
  induction items generalizing values with
  | nil => simp [eq_comm]
  | cons item items ih =>
      rw [List.mapM_cons, List.forall₂_cons_left_iff]
      simp only [Option.bind_eq_bind, Option.bind_eq_some_iff, Option.pure_def,
        Option.some.injEq, ih]
      constructor
      · rintro ⟨value, found, rest, others, rfl⟩
        exact ⟨value, rest, found, others, rfl⟩
      · rintro ⟨value, rest, found, others, rfl⟩
        exact ⟨value, found, rest, others, rfl⟩

@[simp] theorem ofItems_eq_map (items : List Json) : ofItems items = items.map ofValue := by
  induction items with
  | nil => rfl
  | cons item items ih => rw [ofItems, ih, List.map_cons]

@[simp] theorem ofFields_eq_map (fields : Fields) :
    ofFields fields = fields.map fun field => (some field.1, ofValue field.2) := by
  induction fields with
  | nil => rfl
  | cons field fields ih =>
      obtain ⟨key, value⟩ := field
      rw [ofFields, ih, List.map_cons]

theorem fieldValues?_eq_some_iff {fields : List (Option String × Document)} {values : Fields} :
    fieldValues? depth fields = some values ↔
      List.Forall₂ (fun field value =>
        field.1 = some value.1 ∧ value? depth field.2 = some value.2) fields values := by
  induction fields generalizing values with
  | nil => simp [fieldValues?, eq_comm]
  | cons field fields ih =>
      obtain ⟨key, document⟩ := field
      rw [List.forall₂_cons_left_iff]
      simp only [← ih]
      cases key with
      | none => simp [fieldValues?]
      | some key =>
          cases first : value? depth document with
          | none => simp [fieldValues?, first]
          | some value =>
              cases rest : fieldValues? depth fields with
              | none => simp [fieldValues?, first, rest]
              | some others =>
                  simp only [fieldValues?, first, rest, Option.some.injEq]
                  constructor
                  · rintro rfl
                    exact ⟨_, _, ⟨rfl, rfl⟩, rfl, rfl⟩
                  · rintro ⟨⟨_, _⟩, _, ⟨rfl, rfl⟩, rfl, rfl⟩
                    rfl

/-! ## Values -/

mutual

theorem regular_of_value? {depth : Nat} : ∀ {document : Document} {json : Json},
    value? depth document = some json → Regular depth json
  | .null, json, read => by
      cases read
      exact .null
  | .bool value, json, read => by
      cases read
      exact .bool value
  | .number value, json, read => by
      obtain ⟨value, -, rfl⟩ := Option.map_eq_some_iff.mp read
      exact .number value
  | .string value, json, read => by
      obtain ⟨value, -, rfl⟩ := Option.map_eq_some_iff.mp read
      exact .string value
  | .array items, json, read => by
      cases depth with
      | zero => cases read
      | succ depth =>
          obtain ⟨values, inner, rfl⟩ := Option.map_eq_some_iff.mp read
          exact .array (regular_of_itemValues? inner)
  | .object fields, json, read => by
      cases depth with
      | zero => cases read
      | succ depth =>
          obtain ⟨values, inner, rfl⟩ := Option.map_eq_some_iff.mp read
          exact .object (sorted_sortFields values) fun field member =>
            regular_of_fieldValues? inner field (mem_of_mem_sortFields member)

theorem regular_of_itemValues? {depth : Nat} : ∀ {items : List Document} {values : List Json},
    itemValues? depth items = some values → ∀ value ∈ values, Regular depth value
  | [], values, read => by
      cases read
      exact nofun
  | item :: items, values, read => by
      rw [itemValues?] at read
      cases first : value? depth item with
      | none => simp [first] at read
      | some value =>
          cases rest : itemValues? depth items with
          | none => simp [first, rest] at read
          | some others =>
              simp only [first, rest, Option.some.injEq] at read
              subst read
              intro other member
              cases List.mem_cons.mp member with
              | inl same => exact same ▸ regular_of_value? first
              | inr inside => exact regular_of_itemValues? rest other inside

theorem regular_of_fieldValues? {depth : Nat} :
    ∀ {fields : List (Option String × Document)} {values : Fields},
      fieldValues? depth fields = some values → ∀ field ∈ values, Regular depth field.2
  | [], values, read => by
      cases read
      exact nofun
  | (key, document) :: fields, values, read => by
      obtain ⟨field, others, ⟨-, first⟩, rest, rfl⟩ :=
        (List.forall₂_cons_left_iff).mp (fieldValues?_eq_some_iff.mp read)
      intro other member
      cases List.mem_cons.mp member with
      | inl same => exact same ▸ regular_of_value? first
      | inr inside =>
          exact regular_of_fieldValues? (fieldValues?_eq_some_iff.mpr rest) other inside

end

theorem itemValues?_ofItems {items values : List Json}
    (each : List.Forall₂ (fun item value => value? depth (ofValue item) = some value) items
      values) : itemValues? depth (ofItems items) = some values := by
  rw [itemValues?_eq_mapM, ofItems_eq_map, mapM_eq_some_iff, List.forall₂_map_left_iff]
  exact each

/-- The second field is the first with the value of the document that says its own. -/
def ReadsAs (depth : Nat) (field read : String × Json) : Prop :=
  field.1 = read.1 ∧ value? depth (ofValue field.2) = some read.2

theorem fieldValues?_ofFields {fields values : Fields}
    (each : List.Forall₂ (ReadsAs depth) fields values) :
    fieldValues? depth (ofFields fields) = some values := by
  rw [ofFields_eq_map, fieldValues?_eq_some_iff, List.forall₂_map_left_iff]
  exact each.imp fun field value same => ⟨congrArg some same.1, same.2⟩

theorem value?_ofValue {json : Json} (regular : Regular depth json) :
    value? depth (ofValue json) = some json := by
  induction regular with
  | null | bool _ | number _ | string _ => rfl
  | array all ih =>
      rw [ofValue, value?, itemValues?_ofItems (List.forall₂_same.mpr ih)]
      rfl
  | object sorted all ih =>
      rw [ofValue, value?, fieldValues?_ofFields
        (List.forall₂_same.mpr fun field member => ⟨rfl, ih field member⟩), Option.map_some,
        sortFields_of_sorted sorted]

end Document

theorem regular_of_read? {text : String} {json : Json} (read : read? text = some json) :
    Regular Document.maxDepth json := by
  obtain ⟨document, -, value⟩ := Option.bind_eq_some_iff.mp read
  exact Document.regular_of_value? value

end Chatflow.Json
