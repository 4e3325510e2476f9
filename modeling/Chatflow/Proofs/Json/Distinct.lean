import Chatflow.Proofs.Json.Record

/-!
# Records without repeated keys

If no key of a document is repeated, the members of a record are what the value of the document has
at their names.
-/

namespace Chatflow.Json

open List (Forall₂)

/-- The members of a record with the given names, as a value has them, and whether it has them by
their place. -/
def recordMembers? (names : List String) : Json → Option (Bool × Fields)
  | .object fields => some (false, fields)
  | .array values => if values.length ≤ names.length then some (true, names.zip values) else none
  | _ => none

def Fields.held? (fields : Fields) (key : String) : Option Json :=
  (fields.get? key).filter (· ≠ .null)

namespace Document

variable {depth : Nat} {document : Document} {json : Json} {names : List String} {name : String}

/-! ## Documents and their values -/

/-- No object repeats a key, at any level. -/
inductive Distinct : Document → Prop
  | null : Distinct .null
  | bool (value : Bool) : Distinct (.bool value)
  | number (value : Option Number) : Distinct (.number value)
  | string (value : Option String) : Distinct (.string value)
  | array {items : List Document} (all : ∀ item ∈ items, Distinct item) : Distinct (.array items)
  | object {fields : List (Option String × Document)} (distinct : (fields.map Prod.fst).Nodup)
      (all : ∀ field ∈ fields, Distinct field.2) : Distinct (.object fields)

def Means (document : Document) (json : Json) : Prop :=
  document.Distinct ∧ ∃ depth, value? depth document = some json

def MeansField (field : Option String × Document) (value : String × Json) : Prop :=
  field.1 = some value.1 ∧ field.2.Means value.2

theorem means_ofValue (regular : Regular depth json) : (ofValue json).Means json := by
  refine ⟨?_, depth, value?_ofValue regular⟩
  induction regular with
  | null => exact .null
  | bool value => exact .bool value
  | number value => exact .number _
  | string value => exact .string _
  | array all ih =>
      rw [ofValue, ofItems_eq_map]
      exact .array (List.forall_mem_map.mpr ih)
  | object sorted all ih =>
      rw [ofValue, ofFields_eq_map]
      refine .object ?_ (List.forall_mem_map.mpr ih)
      have keys := sorted.nodup_keys.map (Option.some_injective String)
      simpa only [List.map_map, Function.comp_def] using keys

/-- A document that is no array and no object is the one that is written for its value. -/
theorem Means.cases (means : document.Means json) :
    (document = ofValue json ∧ ∀ items fields, json ≠ .array items ∧ json ≠ .object fields) ∨
    (∃ items values, document = .array items ∧ json = .array values ∧
      Forall₂ Means items values) ∨
    ∃ fields values, document = .object fields ∧ json = .object (sortFields values) ∧
      (values.map Prod.fst).Nodup ∧ Forall₂ MeansField fields values := by
  obtain ⟨distinct, depth, read⟩ := means
  cases distinct with
  | null | bool _ =>
      cases read
      exact .inl ⟨rfl, by simp⟩
  | number _ | string _ =>
      obtain ⟨_, rfl, rfl⟩ := Option.map_eq_some_iff.mp read
      exact .inl ⟨rfl, by simp⟩
  | array all =>
      cases depth with
      | zero => cases read
      | succ depth =>
          obtain ⟨values, inner, rfl⟩ := Option.map_eq_some_iff.mp read
          rw [itemValues?_eq_mapM, mapM_eq_some_iff] at inner
          refine .inr (.inl ⟨_, values, rfl, rfl, ?_⟩)
          have each := (List.forall₂_and_left _ _).mpr ⟨all, inner⟩
          exact each.imp fun item value both => ⟨both.1, depth, both.2⟩
  | @object fields distinct all =>
      cases depth with
      | zero => cases read
      | succ depth =>
          obtain ⟨values, inner, rfl⟩ := Option.map_eq_some_iff.mp read
          rw [fieldValues?_eq_some_iff] at inner
          have same : fields.map Prod.fst = (values.map Prod.fst).map some := by
            rw [← List.forall₂_eq_eq_eq, List.map_map, List.forall₂_map_left_iff,
              List.forall₂_map_right_iff]
            exact inner.imp fun field value both => both.1
          refine .inr (.inr ⟨_, values, rfl, rfl, (same ▸ distinct).of_map some, ?_⟩)
          have each := (List.forall₂_and_left _ _).mpr ⟨all, inner⟩
          exact each.imp fun field value both => ⟨both.2.1, both.1, depth, both.2.2⟩

/-! ## Plain values -/

theorem nullable?_of_ne {α : Type} {read : Document → Option α} (present : document ≠ .null) :
    nullable? read document = (read document).map some := by
  cases document with
  | null => exact absurd rfl present
  | bool _ | number _ | string _ | array _ | object _ => rfl

theorem Means.null_iff (means : document.Means json) : document = .null ↔ json = .null := by
  rcases means.cases with ⟨rfl, -⟩ | ⟨_, _, rfl, rfl, -⟩ | ⟨_, _, rfl, rfl, -⟩
  · cases json <;> simp [ofValue]
  · simp
  · simp

theorem Means.read_eq {α : Type} (means : document.Means json) (read : Document → Option α)
    (array : ∀ items, read (.array items) = none)
    (object : ∀ fields, read (.object fields) = none) : read document = read (ofValue json) := by
  rcases means.cases with ⟨rfl, -⟩ | ⟨_, _, rfl, rfl, -⟩ | ⟨_, _, rfl, rfl, -⟩
  · rfl
  · rw [array, ofValue, array]
  · rw [object, ofValue, object]

theorem Means.bool?_eq_some_iff {value : Bool} (means : document.Means json) :
    bool? document = some value ↔ json = .bool value := by
  rw [means.read_eq bool? (fun _ => rfl) (fun _ => rfl)]
  exact bool?_ofValue_eq_some_iff

theorem Means.string?_eq_some_iff {value : String} (means : document.Means json) :
    string? document = some value ↔ json = .string value := by
  rw [means.read_eq string? (fun _ => rfl) (fun _ => rfl)]
  exact string?_ofValue_eq_some_iff

theorem Means.int64?_eq_some_iff {value : Int64} (means : document.Means json) :
    int64? document = some value ↔ json = .ofInt64 value := by
  rw [means.read_eq int64? (fun _ => rfl) (fun _ => rfl)]
  exact int64?_ofValue_eq_some_iff

/-! ## Members -/

structure Members.Mean (names : List String) (members : Members) (has : Bool × Fields) : Prop where
  positional : members.positional = has.1
  lookup : ∀ name ∈ names, Option.Rel Means (members.found.lookup name) (has.2.get? name)

theorem rel_none_iff {α β : Type} {related : α → β → Prop} {held : Option α} :
    Option.Rel related held none ↔ held = none := by
  cases held <;> simp

theorem lookup_zip_means {items : List Document} {values : List Json}
    (each : Forall₂ Means items values) :
    Option.Rel Means ((names.zip items).lookup name) (Fields.get? (names.zip values) name) := by
  induction each generalizing names with
  | nil =>
      rw [List.zip_nil_right, List.zip_nil_right]
      exact .none
  | cons first _ ih =>
      cases names with
      | nil => exact .none
      | cons other names =>
          rw [List.zip_cons_cons, List.zip_cons_cons, List.lookup_cons, Fields.get?_cons]
          by_cases same : name = other
          · rw [if_pos same.symm, beq_iff_eq.mpr same]
            exact .some first
          · rw [if_neg (Ne.symm same), beq_eq_false_iff_ne.mpr same]
            exact ih

theorem exists_knownFields?_eq (names : List String)
    {fields : List (Option String × Document)} {values : Fields}
    (distinct : (values.map Prod.fst).Nodup) (each : Forall₂ MeansField fields values) :
    ∃ found, knownFields? names fields = some found ∧ ∀ name,
      Option.Rel Means (found.lookup name) (if name ∈ names then values.get? name else none) := by
  induction each with
  | nil =>
      refine ⟨[], rfl, fun name => ?_⟩
      rw [Fields.get?_nil, ite_self]
      exact .none
  | @cons field value fields values first _ ih =>
      obtain ⟨_, document⟩ := field
      obtain ⟨key, json⟩ := value
      obtain ⟨rfl, means⟩ := first
      obtain ⟨new, rest_distinct⟩ := List.nodup_cons.mp distinct
      obtain ⟨found, read, lookup⟩ := ih rest_distinct
      by_cases known : key ∈ names
      · have missing : Fields.get? values key = none :=
          Fields.get?_eq_none_iff.mpr fun field member same =>
            new (List.mem_map.mpr ⟨field, member, same⟩)
        have unseen := lookup key
        rw [missing, ite_self, rel_none_iff] at unseen
        refine ⟨(key, document) :: found, by simp [knownFields?, read, known, unseen],
          fun name => ?_⟩
        rw [List.lookup_cons, Fields.get?_cons]
        by_cases same : name = key
        · rw [beq_iff_eq.mpr same, same, if_pos known, if_pos rfl]
          exact .some means
        · rw [beq_eq_false_iff_ne.mpr same, if_neg (Ne.symm same)]
          exact lookup name
      · refine ⟨found, by simp [knownFields?, read, known], fun name => ?_⟩
        rw [Fields.get?_cons]
        by_cases same : key = name
        · have here := lookup name
          rwa [if_neg (same ▸ known)] at here ⊢
        · rw [if_neg same]
          exact lookup name

/-- The members of a record are found in a document exactly if its value has them. -/
theorem Means.members? (means : document.Means json) (names : List String) :
    Option.Rel (Members.Mean names) (members? names document) (recordMembers? names json) := by
  rcases means.cases with ⟨rfl, plain⟩ | ⟨items, values, rfl, rfl, each⟩ |
    ⟨fields, values, rfl, rfl, distinct, each⟩
  · cases json with
    | null | bool _ | number _ | string _ => exact .none
    | array items => exact absurd rfl (plain items []).1
    | object fields => exact absurd rfl (plain [] fields).2
  · rw [Document.members?, recordMembers?, each.length_eq]
    split
    · exact .some ⟨rfl, fun name _ => lookup_zip_means each⟩
    · exact .none
  · obtain ⟨found, read, lookup⟩ := exists_knownFields?_eq names distinct each
    rw [Document.members?, recordMembers?, read]
    refine .some ⟨rfl, fun name member => ?_⟩
    rw [get?_sortFields, get?_reverse_of_nodup distinct]
    simpa only [if_pos member] using lookup name

variable {α : Type} {read : Document → Option α}

theorem Means.members?_bind_eq_some_iff (means : document.Means json)
    {next : Members → Option α} {value : α} {fits : Bool × Fields → Prop}
    (each : ∀ {members has}, Members.Mean names members has →
      (next members = some value ↔ fits has)) :
    (Document.members? names document >>= next) = some value ↔
      ∃ has, recordMembers? names json = some has ∧ fits has := by
  have rel := means.members? names
  generalize Document.members? names document = members, recordMembers? names json = held at rel
  cases rel with
  | none => simp
  | some mean => simp [each mean]

theorem Means.exists_members?_eq {fields : Fields} (means : document.Means (.object fields))
    (names : List String) :
    ∃ members, Document.members? names document = some members ∧
      members.Mean names (false, fields) := by
  have rel := means.members? names
  rw [recordMembers?] at rel
  generalize Document.members? names document = found at rel
  cases rel with | some mean => exact ⟨_, rfl, mean⟩

namespace Members.Mean

variable {members : Members} {has : Bool × Fields}

theorem required?_eq_some_iff (mean : members.Mean names has) (known : name ∈ names) {value : α}
    {fits : Json → Prop}
    (each : ∀ {document json}, document.Means json → (read document = some value ↔ fits json)) :
    members.required? name read = some value ↔ ∃ json, has.2.get? name = some json ∧ fits json := by
  have rel := mean.lookup name known
  rw [required?]
  generalize members.found.lookup name = found, has.2.get? name = held at rel
  cases rel with
  | none => simp
  | some means => simp [each means]

theorem optional?_eq_some_iff (mean : members.Mean names has) (known : name ∈ names)
    (named : has.1 = false) {value : Option α} {fits : α → Json → Prop}
    (each : ∀ {value document json}, document.Means json →
      (read document = some value ↔ fits value json)) :
    members.optional? name read = some value ↔ Option.Rel fits value (has.2.held? name) := by
  have rel := mean.lookup name known
  rw [optional?, mean.positional, named, Fields.held?]
  generalize members.found.lookup name = found, has.2.get? name = held at rel
  cases rel with
  | none => cases value <;> simp
  | @some document json means =>
      by_cases null : json = .null
      · rw [means.null_iff.mpr null, null]
        cases value <;> simp [nullable?, Option.filter_some]
      · have present : document ≠ .null := fun same => null (means.null_iff.mp same)
        have kept : (some json).filter (· ≠ .null) = some json := by simp [null]
        rw [kept]
        cases value <;> simp [nullable?_of_ne present, each means]

theorem optional?_eq_some_iff_map (mean : members.Mean names has) (known : name ∈ names)
    (named : has.1 = false) {value : Option α} {write : α → Json}
    (each : ∀ {value document json}, document.Means json →
      (read document = some value ↔ json = write value)) :
    members.optional? name read = some value ↔ has.2.held? name = value.map write := by
  rw [mean.optional?_eq_some_iff known named each]
  cases value <;> cases has.2.held? name <;> simp

end Members.Mean

end Document

end Chatflow.Json
