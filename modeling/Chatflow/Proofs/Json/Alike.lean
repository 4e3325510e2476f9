import Chatflow.Proofs.Json.Distinct

/-!
# Values of one record

Two values of a record are alike if their members are, whatever other fields they have.  A reader
that looks at the members only makes no difference between them.
-/

namespace Chatflow.Json

/-- Two values of a record with the given names, whose members are related, each in a way of its
own.  All other fields are free. -/
inductive Alike (names : List String) (part : String → Json → Json → Prop) : Json → Json → Prop
  | same (json : Json) : Alike names part json json
  | object {fields others : Fields}
      (each : ∀ name ∈ names, Option.Rel (part name) (fields.get? name) (others.get? name)) :
      Alike names part (.object fields) (.object others)
  | array {values others : List Json} (length : values.length = others.length)
      (each : ∀ entry ∈ names.zip (values.zip others), part entry.1 entry.2.1 entry.2.2) :
      Alike names part (.array values) (.array others)

variable {names : List String} {part : String → Json → Json → Prop} {json other : Json}
  {name : String} {α : Type}

theorem Alike.null_iff (alike : Alike names part json other) : json = .null ↔ other = .null := by
  cases alike <;> simp

theorem rel_refl {related : Json → Json → Prop} (refl : ∀ json, related json json)
    (held : Option Json) : Option.Rel related held held := by
  cases held with
  | none => exact .none
  | some json => exact .some (refl json)

/-- In particular fields can be added that the record does not know. -/
theorem alike_added (refl : ∀ name json, part name json json) {fields : Fields}
    (sorted : fields.Sorted) (further : Fields) (unknown : ∀ field ∈ further, field.1 ∉ names) :
    Alike names part (.object fields) (.object (sortFields (fields ++ further))) := by
  refine .object fun name known => ?_
  have missing : (sortFields further).get? name = none := by
    refine Fields.get?_eq_none_iff.mpr fun field member same => ?_
    exact unknown field (mem_of_mem_sortFields member) (same ▸ known)
  rw [get?_sortFields_append, missing, Option.none_or, sortFields_of_sorted sorted]
  exact rel_refl (refl name) _

/-- What is said of two options carries over to what says them. -/
theorem rel_of_rel {α β γ δ : Type} {first : α → γ → Prop} {second : β → δ → Prop}
    {related : γ → δ → Prop} {result : α → β → Prop}
    (each : ∀ {a b c d}, first a c → second b d → related c d → result a b) :
    ∀ {a b c d}, Option.Rel first a c → Option.Rel second b d → Option.Rel related c d →
      Option.Rel result a b
  | _, _, _, _, .none, .none, .none => .none
  | _, _, _, _, .some one, .some other, .some both => .some (each one other both)

theorem rel_get?_zip {values others : List Json} (length : values.length = others.length)
    (each : ∀ entry ∈ names.zip (values.zip others), part entry.1 entry.2.1 entry.2.2) :
    Option.Rel (part name) (Fields.get? (names.zip values) name)
      (Fields.get? (names.zip others) name) := by
  induction names generalizing values others with
  | nil => exact .none
  | cons first names ih =>
      cases values with
      | nil =>
          obtain rfl := List.length_eq_zero_iff.mp length.symm
          exact .none
      | cons value values =>
          obtain ⟨other, others, rfl⟩ := List.exists_cons_of_length_eq_add_one length.symm
          rw [List.zip_cons_cons, List.zip_cons_cons] at each
          obtain ⟨here, later⟩ := List.forall_mem_cons.mp each
          rw [List.zip_cons_cons, List.zip_cons_cons, Fields.get?_cons, Fields.get?_cons]
          by_cases same : first = name
          · rw [if_pos same, if_pos same, ← same]
            exact .some here
          · rw [if_neg same, if_neg same]
            exact ih (Nat.succ.inj length) later

/-- What two values have for a record, if their members are related. -/
structure HaveAlike (names : List String) (part : String → Json → Json → Prop)
    (has others : Bool × Fields) : Prop where
  positional : has.1 = others.1
  get? : ∀ name ∈ names, Option.Rel (part name) (has.2.get? name) (others.2.get? name)

theorem Alike.recordMembers? (refl : ∀ name json, part name json json)
    (alike : Alike names part json other) :
    Option.Rel (HaveAlike names part) (recordMembers? names json)
      (recordMembers? names other) := by
  cases alike with
  | same =>
      cases Json.recordMembers? names json with
      | none => exact .none
      | some has => exact .some ⟨rfl, fun name _ => rel_refl (refl name) _⟩
  | object each => exact .some ⟨rfl, each⟩
  | array length each =>
      rw [Json.recordMembers?, Json.recordMembers?, length]
      split
      · exact .some ⟨rfl, fun name _ => rel_get?_zip length each⟩
      · exact .none

namespace Document

/-! ## Readers that make no difference -/

/-- The documents have values that are related. -/
def MeanAlike (related : Json → Json → Prop) (document another : Document) : Prop :=
  ∃ json other, document.Means json ∧ another.Means other ∧ related json other

/-- The reader makes no difference between documents whose values are related. -/
def ReadsAlike (read : Document → Option α) (related : Json → Json → Prop) : Prop :=
  ∀ {document another}, MeanAlike related document another → read document = read another

variable {read : Document → Option α} {related : Json → Json → Prop}

theorem readsAlike_plain (array : ∀ items, read (.array items) = none)
    (object : ∀ fields, read (.object fields) = none) : ReadsAlike read Eq := by
  rintro document another ⟨json, _, means, others, rfl⟩
  rw [means.read_eq read array object, others.read_eq read array object]

theorem readsAlike_bool : ReadsAlike bool? Eq := readsAlike_plain (fun _ => rfl) fun _ => rfl

theorem readsAlike_string : ReadsAlike string? Eq := readsAlike_plain (fun _ => rfl) fun _ => rfl

theorem readsAlike_int64 : ReadsAlike int64? Eq := readsAlike_plain (fun _ => rfl) fun _ => rfl

theorem ReadsAlike.nullable? (alike : ReadsAlike read related)
    (nulls : ∀ {json other}, related json other → (json = .null ↔ other = .null)) :
    ReadsAlike (nullable? read) related := by
  rintro document another ⟨json, other, means, others, rel⟩
  have both : document = .null ↔ another = .null :=
    means.null_iff.trans ((nulls rel).trans others.null_iff.symm)
  by_cases null : document = .null
  · rw [null, both.mp null]
  · rw [nullable?_of_ne null, nullable?_of_ne (null ∘ both.mpr),
      alike ⟨json, other, means, others, rel⟩]

/-! ## Members -/

/-- The members that two documents have for a record, if their values are related. -/
structure Members.Alike (names : List String) (part : String → Json → Json → Prop)
    (members others : Members) : Prop where
  positional : members.positional = others.positional
  lookup : ∀ name ∈ names,
    Option.Rel (MeanAlike (part name)) (members.found.lookup name) (others.found.lookup name)

namespace Members.Alike

variable {members others : Members} (name)

theorem required? (alike : members.Alike names part others) (known : name ∈ names)
    (reads : ReadsAlike read (part name)) :
    members.required? name read = others.required? name read := by
  have rel := alike.lookup name known
  rw [Members.required?, Members.required?]
  generalize members.found.lookup name = found, others.found.lookup name = another at rel
  cases rel with
  | none => rfl
  | some both => exact reads both

theorem orDefault? (alike : members.Alike names part others) (known : name ∈ names) (default : α)
    (reads : ReadsAlike read (part name)) :
    members.orDefault? name default read = others.orDefault? name default read := by
  have rel := alike.lookup name known
  rw [Members.orDefault?, Members.orDefault?]
  generalize members.found.lookup name = found, others.found.lookup name = another at rel
  cases rel with
  | none => rfl
  | some both => exact reads both

theorem optional? (alike : members.Alike names part others) (known : name ∈ names)
    (reads : ReadsAlike (nullable? read) (part name)) :
    members.optional? name read = others.optional? name read := by
  have rel := alike.lookup name known
  rw [Members.optional?, Members.optional?, alike.positional]
  generalize members.found.lookup name = found, others.found.lookup name = another at rel
  cases rel with
  | none => rfl
  | some both => exact reads both

end Members.Alike

theorem MeanAlike.members? (refl : ∀ name json, part name json json) {document another : Document}
    (alike : MeanAlike (Json.Alike names part) document another) :
    Option.Rel (Members.Alike names part) (members? names document) (members? names another) := by
  obtain ⟨json, other, means, others, alike⟩ := alike
  refine rel_of_rel (fun first second both => ?_) (means.members? names)
    (others.members? names) (alike.recordMembers? refl)
  refine ⟨first.positional.trans (both.positional.trans second.positional.symm),
    fun name known => ?_⟩
  exact rel_of_rel (fun one other rel => ⟨_, _, one, other, rel⟩) (first.lookup name known)
    (second.lookup name known) (both.get? name known)

/-- A record is read alike from documents with the same members. -/
theorem readsAlike_record (refl : ∀ name json, part name json json) {next : Members → Option α}
    (same : ∀ {members others : Members}, members.Alike names part others →
      next members = next others) :
    ReadsAlike (fun document => members? names document >>= next) (Json.Alike names part) := by
  intro document another alike
  have found := alike.members? refl
  beta_reduce
  generalize document.members? names = members, another.members? names = others at found
  cases found with
  | none => rfl
  | some both => exact same both

end Document

end Chatflow.Json
