import Chatflow.Proofs.Json.Record
import Chatflow.Proofs.Json.Text

/-!
# Written records

A record is written as an object with some of its members, in order.  Its members are then read one
by one.
-/

namespace Chatflow.Json

open Document (ofValue)

variable {α : Type} {read : Document → Option α} {write : α → Json} {value : α}
  {fields : Fields} {names : List String} {name : String}

/-! ## Fields that may be left out -/

@[simp] theorem get?_fieldIfSome (key : String) (value : Option α) :
    Fields.get? (fieldIfSome key write value) name =
      if key = name then value.map write else none := by
  cases value with
  | none => simp [fieldIfSome]
  | some value => exact Fields.get?_cons

theorem keys_fieldIfSome (key : String) (value : Option α) :
    ((fieldIfSome key write value).map Prod.fst).Sublist [key] := by
  cases value with
  | none => exact List.nil_sublist _
  | some value => exact .refl _

theorem keys_append_fieldIfSome {key : String} {value : Option α}
    (known : (fields.map Prod.fst).Sublist names) :
    ((fields ++ fieldIfSome key write value).map Prod.fst).Sublist (names ++ [key]) := by
  rw [List.map_append]
  exact known.append (keys_fieldIfSome key value)

/-! ## Numbers -/

section

variable {kind : Number → Prop}

@[simp] theorem allNumbers_string (text : String) : AllNumbers kind (.string text) := .string text

@[simp] theorem allNumbers_bool (value : Bool) : AllNumbers kind (.bool value) := .bool value

@[simp] theorem allNumbers_ofInt64 (n : Int64) : AllNumbers NumberReadsBack (.ofInt64 n) :=
  .number (numberReadsBack_whole _)

@[simp] theorem allNumbers_array_iff {items : List Json} :
    AllNumbers kind (.array items) ↔ ∀ item ∈ items, AllNumbers kind item :=
  ⟨fun | .array all => all, .array⟩

@[simp] theorem allNumbers_object_iff :
    AllNumbers kind (.object fields) ↔ ∀ field ∈ fields, AllNumbers kind field.2 :=
  ⟨fun | .object all => all, .object⟩

@[simp] theorem allNumbers_ofStrings (texts : List String) :
    AllNumbers kind (.ofStrings texts) := by
  simp [ofStrings]

theorem allNumbers_ofOption (value : Option α) (each : ∀ value, AllNumbers kind (write value)) :
    AllNumbers kind (.ofOption write value) := by
  cases value with
  | none => exact .null
  | some value => exact each value

theorem allNumbers_fieldIfSome {key : String} {value : Option α}
    (each : ∀ value, AllNumbers kind (write value)) :
    AllNumbers kind (.object (fieldIfSome key write value)) := by
  simp [fieldIfSome, each]

theorem AllNumbers.append_fieldIfSome {key : String} {value : Option α}
    (numbers : AllNumbers kind (.object fields)) (each : ∀ value, AllNumbers kind (write value)) :
    AllNumbers kind (.object (fields ++ fieldIfSome key write value)) := by
  rw [allNumbers_object_iff, List.forall_mem_append]
  exact ⟨allNumbers_object_iff.mp numbers, allNumbers_object_iff.mp (allNumbers_fieldIfSome each)⟩

end

namespace Document

/-! ## Plain values -/

/-- The value is read from what is written for it. -/
def Returns (read : Document → Option α) (write : α → Json) (value : α) : Prop :=
  read (ofValue (write value)) = some value

theorem Returns.readDocument?_write (returns : Returns read write value)
    (numbers : AllNumbers NumberReadsBack (write value)) :
    (readDocument? (write value).write).bind read = some value := by
  rw [Json.readDocument?_write numbers, Option.bind_some]
  exact returns

theorem returns_string (text : String) : Returns string? .string text := rfl

theorem returns_bool (value : Bool) : Returns bool? .bool value := rfl

theorem returns_int64 (n : Int64) : Returns int64? .ofInt64 n := Decimal.int64OfInt?_toInt n

theorem returns_list {values : List α} (each : ∀ value ∈ values, Returns read write value) :
    Returns (list? read) (fun values => .array (values.map write)) values := by
  rw [Returns, list?_ofValue_eq_some_iff]
  exact ⟨_, rfl, List.forall₂_map_left_iff.mpr (List.forall₂_same.mpr each)⟩

theorem returns_strings (texts : List String) : Returns (list? string?) .ofStrings texts :=
  returns_list fun text _ => returns_string text

/-- A reader that refuses `null` can tell it from a value. -/
theorem Returns.nullable? (refuses : read .null = none) (returns : Returns read write value) :
    nullable? read (ofValue (write value)) = some (some value) :=
  (nullable?_ofValue_eq_some_iff refuses).mpr (.inr ⟨value, returns, rfl⟩)

/-! ## Members -/

/-- The members are what the fields say. -/
structure Members.From (members : Members) (fields : Fields) : Prop where
  named : members.positional = false
  lookup : ∀ name, members.found.lookup name = (fields.get? name).map ofValue

/-- A record can be read from some of its members, in order. -/
theorem members?_bind_eq_some {next : Members → Option α} (distinct : names.Nodup)
    (known : (fields.map Prod.fst).Sublist names)
    (reads : ∀ members : Members, members.From fields → next members = some value) :
    (members? names (ofValue (.object fields)) >>= next) = some value := by
  have all : (fields.filter fun field => names.contains field.1) = fields := by
    rw [List.filter_eq_self]
    intro field member
    exact List.contains_iff_mem.mpr (known.subset (List.mem_map_of_mem member))
  rw [ofValue, members?, knownFields?_ofFields (known.nodup distinct), all, Option.map_some]
  exact reads _ ⟨rfl, fun name => lookup_map_ofValue⟩

/-- Fields that a record does not know make no difference to it. -/
theorem members?_append_of_unknown {others : Fields}
    (unknown : ∀ field ∈ others, field.1 ∉ names) :
    members? names (ofValue (.object (others ++ fields))) =
      members? names (ofValue (.object fields)) := by
  simp only [ofValue, members?]
  congr 1
  induction others with
  | nil => rfl
  | cons field others ih =>
      have new := unknown field List.mem_cons_self
      have rest := ih fun other member => unknown other (List.mem_cons_of_mem _ member)
      rw [List.cons_append, ofFields, knownFields?, rest]
      cases knownFields? names (ofFields fields) with
      | none => rfl
      | some found => simp [new]

namespace Members.From

variable {members : Members} (name)

theorem required? (these : members.From fields) (returns : Returns read write value)
    (held : fields.get? name = some (write value)) : members.required? name read = some value := by
  rw [Members.required?, these.lookup, held]
  exact returns

theorem orDefault? (these : members.From fields) (default : α)
    (returns : Returns read write value) (held : fields.get? name = some (write value)) :
    members.orDefault? name default read = some value := by
  rw [Members.orDefault?, these.lookup, held]
  exact returns

/-- A member that may be left out is not missed. -/
theorem orDefault?_none (these : members.From fields) (optional : Option α)
    (each : ∀ value ∈ optional, Returns read write value) (refuses : read .null = none)
    (held : fields.get? name = optional.map write) :
    members.orDefault? name none (nullable? read) = some optional := by
  rw [Members.orDefault?, these.lookup, held]
  cases optional with
  | none => rfl
  | some value => exact (each value rfl).nullable? refuses

theorem optional? (these : members.From fields) (optional : Option α)
    (each : ∀ value ∈ optional, Returns read write value) (refuses : read .null = none)
    (held : fields.get? name = optional.map write) :
    members.optional? name read = some optional := by
  rw [Members.optional?, these.lookup, held]
  cases optional with
  | none => exact if_neg (ne_true_of_eq_false these.named)
  | some value => exact (each value rfl).nullable? refuses

theorem optional?_null (these : members.From fields) (optional : Option α)
    (each : ∀ value ∈ optional, Returns read write value) (refuses : read .null = none)
    (held : fields.get? name = some (.ofOption write optional)) :
    members.optional? name read = some optional := by
  rw [Members.optional?, these.lookup, held]
  cases optional with
  | none => rfl
  | some value => exact (each value rfl).nullable? refuses

end Members.From

end Document

end Chatflow.Json
