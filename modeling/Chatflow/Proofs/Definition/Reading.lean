import Chatflow.Proofs.Definition.Format

/-!
# Reading definitions

A definition is read from exactly the objects of the stored format, and it is what they say.
-/

namespace Chatflow

open Json (Document Fields Regular)
open Json.Document (ofValue membersAndExtra?_bind_eq_some_iff string?_ofValue_eq_some_iff
  fields?_ofValue_eq_some_iff list?_ofValue_eq_some_iff nullable?_ofValue_eq_some_iff)

variable {α : Type} {depth : Nat} {json : Json} {fields : Fields} {key : String}
  {members : Document.Members} {read : Document → Option α} {kind : α → Json}

/-! ## Members -/

theorem Slot.ofMember?_eq_some_iff {slot : Slot α}
    (found : members.found.lookup key = (fields.get? key).map ofValue)
    (refuses : read .null = none)
    (reads : ∀ json, fields.get? key = some json →
      ∀ value, read (ofValue json) = some value ↔ json = kind value) :
    Slot.ofMember? members key read = some slot ↔ fields.get? key = slot.stored? kind := by
  rw [ofMember?, Document.Members.orDefault?, found]
  cases held : fields.get? key with
  | none => cases slot <;> simp [stored?]
  | some json =>
      simp only [Option.map_some, Option.map_eq_some_iff,
        nullable?_ofValue_eq_some_iff refuses, reads json held]
      constructor
      · rintro ⟨_, ⟨rfl, rfl⟩ | ⟨value, rfl, rfl⟩, rfl⟩
        · rfl
        · rfl
      · intro same
        cases slot with
        | absent => cases same
        | null =>
            cases same
            exact ⟨none, .inl ⟨rfl, rfl⟩, rfl⟩
        | given value =>
            cases same
            exact ⟨some value, .inr ⟨value, rfl, rfl⟩, rfl⟩

theorem required?_eq_some_iff {value : α}
    (found : members.found.lookup key = (fields.get? key).map ofValue)
    (reads : ∀ json value, read (ofValue json) = some value ↔ json = kind value) :
    members.required? key read = some value ↔ fields.get? key = some (kind value) := by
  rw [Document.Members.required?, found]
  cases fields.get? key with
  | none => simp
  | some json => simpa using reads json value

theorem orDefault?_eq_some_iff {default value : α} {means : Json → α → Prop}
    (found : members.found.lookup key = (fields.get? key).map ofValue)
    (reads : ∀ json, fields.get? key = some json →
      ∀ value, read (ofValue json) = some value ↔ means json value) :
    members.orDefault? key default read = some value ↔
      (∃ json, fields.get? key = some json ∧ means json value) ∨
        fields.get? key = none ∧ value = default := by
  rw [Document.Members.orDefault?, found]
  cases held : fields.get? key with
  | none => simp [eq_comm]
  | some json => simpa using reads json held value

theorem nullableList?_eq_some_iff {values : List α} :
    nullableList? read (ofValue json) = some values ↔
      (∃ items, json = .array items ∧
        List.Forall₂ (fun item value => read (ofValue item) = some value) items values) ∨
      json = .null ∧ values = [] := by
  rw [nullableList?]
  simp only [Option.map_eq_some_iff, nullable?_ofValue_eq_some_iff
    (show Document.list? read .null = none from rfl), list?_ofValue_eq_some_iff]
  constructor
  · rintro ⟨_, ⟨rfl, rfl⟩ | ⟨held, items, rfl⟩, rfl⟩
    · exact .inr ⟨rfl, rfl⟩
    · exact .inl items
  · rintro (items | ⟨rfl, rfl⟩)
    · exact ⟨some values, .inr ⟨values, items, rfl⟩, rfl⟩
    · exact ⟨none, .inl ⟨rfl, rfl⟩, rfl⟩

/-! ## Records -/

theorem slot_string?_eq_some_iff {slot : Slot String}
    (found : members.found.lookup key = (fields.get? key).map ofValue) :
    Slot.ofMember? members key Document.string? = some slot ↔
      fields.get? key = slot.stored? Json.string :=
  Slot.ofMember?_eq_some_iff found rfl fun _ _ _ => string?_ofValue_eq_some_iff

theorem NodeData.ofDocument?_eq_some_iff (regular : Regular depth json) {data : NodeData} :
    NodeData.ofDocument? depth (ofValue json) = some data ↔
      ∃ fields, json = .object fields ∧ data.StoredIn fields := by
  refine membersAndExtra?_bind_eq_some_iff regular fun fields members all found => ?_
  have config_iff (config : Slot Fields) :
      Slot.ofMember? members "config" (Document.fields? (depth - 1)) = some config ↔
        fields.get? "config" = config.stored? Json.object :=
    Slot.ofMember?_eq_some_iff (found "config" (by simp)) rfl fun _ held _ =>
      fields?_ofValue_eq_some_iff (Regular.get? all held)
  simp only [Option.bind_eq_bind, Option.bind_eq_some_iff, Option.some.injEq, config_iff,
    slot_string?_eq_some_iff (found "label" (by simp))]
  constructor
  · rintro ⟨label, hasLabel, config, hasConfig, rfl⟩
    exact ⟨hasLabel, hasConfig, rfl⟩
  · rintro ⟨hasLabel, hasConfig, extra⟩
    exact ⟨_, hasLabel, _, hasConfig, by rw [← extra]⟩

theorem NodeSpec.ofDocument?_eq_some_iff (regular : Regular depth json) {node : NodeSpec} :
    NodeSpec.ofDocument? depth (ofValue json) = some node ↔
      ∃ fields, json = .object fields ∧ node.StoredIn fields := by
  refine membersAndExtra?_bind_eq_some_iff regular fun fields members all found => ?_
  have id_iff (id : String) : members.required? "id" Document.string? = some id ↔
      fields.get? "id" = some (.string id) :=
    required?_eq_some_iff (found "id" (by simp)) fun _ _ => string?_ofValue_eq_some_iff
  have type_iff (type : String) : members.orDefault? "type" "" Document.string? = some type ↔
      (∃ json, fields.get? "type" = some json ∧ json = .string type) ∨
        fields.get? "type" = none ∧ type = "" :=
    orDefault?_eq_some_iff (found "type" (by simp)) fun _ _ _ => string?_ofValue_eq_some_iff
  have data_iff (data : NodeData) :
      members.orDefault? "data" {} (NodeData.ofDocument? (depth - 1)) = some data ↔
        (∃ json, fields.get? "data" = some json ∧
          ∃ inner, json = .object inner ∧ data.StoredIn inner) ∨
        fields.get? "data" = none ∧ data = {} :=
    orDefault?_eq_some_iff (found "data" (by simp)) fun _ held _ =>
      NodeData.ofDocument?_eq_some_iff (Regular.get? all held)
  simp only [Option.bind_eq_bind, Option.bind_eq_some_iff, Option.some.injEq, id_iff, type_iff,
    data_iff]
  constructor
  · rintro ⟨id, hasId, type, hasType, data, hasData, rfl⟩
    refine ⟨hasId, ?_, ?_, rfl⟩
    · rcases hasType with ⟨_, held, rfl⟩ | missing
      · exact .inl held
      · exact .inr missing
    · rcases hasData with ⟨_, held, inner, rfl, stored⟩ | missing
      · exact .inl ⟨inner, held, stored⟩
      · exact .inr missing
  · rintro ⟨hasId, hasType, hasData, extra⟩
    refine ⟨_, hasId, node.type, ?_, node.data, ?_, by rw [← extra]⟩
    · rcases hasType with held | missing
      · exact .inl ⟨_, held, rfl⟩
      · exact .inr missing
    · rcases hasData with ⟨inner, held, stored⟩ | missing
      · exact .inl ⟨_, held, inner, rfl, stored⟩
      · exact .inr missing

theorem EdgeSpec.ofDocument?_eq_some_iff (regular : Regular depth json) {edge : EdgeSpec} :
    EdgeSpec.ofDocument? depth (ofValue json) = some edge ↔
      ∃ fields, json = .object fields ∧ edge.StoredIn fields := by
  refine membersAndExtra?_bind_eq_some_iff regular fun fields members all found => ?_
  have end_iff {key : String}
      (known : key ∈ ["id", "source", "target", "sourceHandle"]) (id : String) :
      members.required? key Document.string? = some id ↔ fields.get? key = some (.string id) :=
    required?_eq_some_iff (found key known) fun _ _ => string?_ofValue_eq_some_iff
  simp only [Option.bind_eq_bind, Option.bind_eq_some_iff, Option.some.injEq,
    slot_string?_eq_some_iff (found "id" (by simp)),
    slot_string?_eq_some_iff (found "sourceHandle" (by simp)),
    end_iff (show "source" ∈ _ by simp), end_iff (show "target" ∈ _ by simp)]
  constructor
  · rintro ⟨id, hasId, source, hasSource, target, hasTarget, handle, hasHandle, rfl⟩
    exact ⟨hasId, hasSource, hasTarget, hasHandle, rfl⟩
  · rintro ⟨hasId, hasSource, hasTarget, hasHandle, extra⟩
    exact ⟨_, hasId, _, hasSource, _, hasTarget, _, hasHandle, by rw [← extra]⟩

/-! ## Definitions -/

theorem forall₂_read_iff {items : List Json} {values : List α} {means : Json → α → Prop}
    (reads : ∀ item ∈ items, ∀ value, read (ofValue item) = some value ↔ means item value) :
    List.Forall₂ (fun item value => read (ofValue item) = some value) items values ↔
      List.Forall₂ means items values := by
  constructor
  · intro said
    exact ((List.forall₂_and_left _ _).mpr ⟨reads, said⟩).imp fun item value both =>
      (both.1 value).mp both.2
  · intro said
    exact ((List.forall₂_and_left _ _).mpr ⟨reads, said⟩).imp fun item value both =>
      (both.1 value).mpr both.2

theorem orDefault?_nullableList?_eq_some_iff {values : List α} {means : Fields → α → Prop}
    (all : ∀ field ∈ fields, Regular depth field.2)
    (found : members.found.lookup key = (fields.get? key).map ofValue)
    (reads : ∀ json, Regular (depth - 1) json → ∀ value,
      read (ofValue json) = some value ↔ ∃ inner, json = .object inner ∧ means inner value) :
    members.orDefault? key [] (nullableList? read) = some values ↔
      ListStoredIn means fields key values := by
  have list_iff : ∀ json, fields.get? key = some json → ∀ values,
      nullableList? read (ofValue json) = some values ↔
        (∃ items, json = .array items ∧ List.Forall₂ (fun item value =>
          ∃ inner, item = .object inner ∧ means inner value) items values) ∨
        json = .null ∧ values = [] := by
    intro json held values
    rw [nullableList?_eq_some_iff]
    refine or_congr_left (exists_congr fun items => and_congr_right fun array => ?_)
    refine forall₂_read_iff fun item member => reads item ?_
    have regular := Regular.get? all held
    rw [array] at regular
    cases regular with
    | array items => exact items item member
  rw [orDefault?_eq_some_iff found list_iff, ListStoredIn]
  constructor
  · rintro (⟨_, held, ⟨items, rfl, said⟩ | ⟨rfl, rfl⟩⟩ | ⟨missing, rfl⟩)
    · exact .inl ⟨items, held, said⟩
    · exact .inr ⟨.inr held, rfl⟩
    · exact .inr ⟨.inl missing, rfl⟩
  · rintro (⟨items, held, said⟩ | ⟨missing | null, rfl⟩)
    · exact .inl ⟨_, held, .inl ⟨items, rfl, said⟩⟩
    · exact .inr ⟨missing, rfl⟩
    · exact .inl ⟨_, null, .inr ⟨rfl, rfl⟩⟩

namespace Definition

theorem ofDocument?_eq_some_iff (regular : Regular depth json) {definition : Definition} :
    ofDocument? depth (.ofValue json) = some definition ↔
      ∃ fields, json = .object fields ∧ definition.StoredIn fields := by
  refine membersAndExtra?_bind_eq_some_iff regular fun fields members all found => ?_
  have nodes_iff (nodes : List NodeSpec) :
      members.orDefault? "nodes" [] (nullableList? (NodeSpec.ofDocument? (depth - 2))) =
        some nodes ↔ ListStoredIn NodeSpec.StoredIn fields "nodes" nodes :=
    orDefault?_nullableList?_eq_some_iff all (found "nodes" (by simp)) fun _ inside _ =>
      NodeSpec.ofDocument?_eq_some_iff inside
  have edges_iff (edges : List EdgeSpec) :
      members.orDefault? "edges" [] (nullableList? (EdgeSpec.ofDocument? (depth - 2))) =
        some edges ↔ ListStoredIn EdgeSpec.StoredIn fields "edges" edges :=
    orDefault?_nullableList?_eq_some_iff all (found "edges" (by simp)) fun _ inside _ =>
      EdgeSpec.ofDocument?_eq_some_iff inside
  simp only [Option.bind_eq_bind, Option.bind_eq_some_iff, Option.some.injEq, nodes_iff,
    edges_iff]
  constructor
  · rintro ⟨nodes, hasNodes, edges, hasEdges, rfl⟩
    exact ⟨hasNodes, hasEdges, rfl⟩
  · rintro ⟨hasNodes, hasEdges, extra⟩
    exact ⟨_, hasNodes, _, hasEdges, by rw [← extra]⟩

theorem ofDocument?_object_eq_some_iff (regular : Regular depth (.object fields))
    {definition : Definition} :
    ofDocument? depth (.ofValue (.object fields)) = some definition ↔
      definition.StoredIn fields := by
  rw [ofDocument?_eq_some_iff regular]
  simp

variable {definition : Definition} {failure : DefinitionError} {value : Json} {raw : String}

theorem ofValue_eq_ok_iff (regular : Regular Document.maxDepth value) :
    ofValue value = .ok definition ↔
      (value ≠ .null ∧ (∀ fields, value ≠ .object fields) ∧ definition = {}) ∨
        ∃ fields, value = .object fields ∧ definition.StoredIn fields := by
  cases value with
  | null => simp [ofValue]
  | bool _ | number _ | string _ | array _ => simp [ofValue, eq_comm]
  | object fields =>
      have read_iff : ofDocument? _ _ = some definition ↔ definition.StoredIn fields :=
        ofDocument?_object_eq_some_iff regular
      rw [ofValue]
      cases read : ofDocument? Document.maxDepth (.ofValue (.object fields)) with
      | none => simpa [read] using read_iff
      | some found => simpa [read] using read_iff

theorem ofValue_eq_error_iff (regular : Regular Document.maxDepth value) :
    (∃ reason, ofValue value = .error (.invalidJson reason)) ↔
      value = .null ∨ ∃ fields, value = .object fields ∧ ¬ Accepts fields := by
  cases value with
  | null => simp [ofValue]
  | bool _ | number _ | string _ | array _ => simp [ofValue]
  | object fields =>
      have fit_iff : (∃ read : Definition, read.StoredIn fields) ↔ Accepts fields :=
        exists_storedIn_iff
      simp only [← ofDocument?_object_eq_some_iff regular] at fit_iff
      rw [ofValue]
      cases read : ofDocument? Document.maxDepth (.ofValue (.object fields)) with
      | none => simpa [read] using fit_iff
      | some found => simpa [read] using fit_iff

theorem exists_ofValue_eq_ok_iff (regular : Regular Document.maxDepth value) :
    (∃ definition, ofValue value = .ok definition) ↔
      value ≠ .null ∧ ∀ fields, value = .object fields → Accepts fields := by
  simp only [ofValue_eq_ok_iff regular]
  cases value with
  | null | bool _ | number _ | string _ | array _ => simp
  | object fields => simp [← exists_storedIn_iff]

theorem ofValue_ne_empty : ofValue value ≠ .error .empty := by
  cases value with
  | null | bool _ | number _ | string _ | array _ => simp [ofValue]
  | object fields =>
      rw [ofValue]
      cases ofDocument? Document.maxDepth (.ofValue (.object fields)) <;> simp

/-! ## Stored text -/

theorem parse_of_unreadable (filled : raw ≠ "") (unread : Json.read? raw = none) :
    parse (some raw) = .error (.invalidJson none) := by
  simp [parse, filled, unread]

theorem parse_of_read? (read : Json.read? raw = some value) : parse (some raw) = ofValue value := by
  have filled : raw ≠ "" := by
    rintro rfl
    cases read
  simp [parse, filled, read]

/-- Reading a stored text accepts the stored format and nothing else, and tells what it says. -/
theorem parse_accepts (text : Option String) :
    (parse text = .error .empty ↔ text = none ∨ text = some "") ∧
    ((∃ reason, parse text = .error (.invalidJson reason)) ↔
      ∃ raw, text = some raw ∧ raw ≠ "" ∧
        (Json.read? raw = none ∨ Json.read? raw = some .null ∨
          ∃ fields, Json.read? raw = some (.object fields) ∧ ¬ Accepts fields)) ∧
    ((∃ definition, parse text = .ok definition) ↔
      ∃ raw value, text = some raw ∧ Json.read? raw = some value ∧ value ≠ .null ∧
        ∀ fields, value = .object fields → Accepts fields) ∧
    ∀ definition, parse text = .ok definition ↔
      ∃ raw value, text = some raw ∧ Json.read? raw = some value ∧
        ((value ≠ .null ∧ (∀ fields, value ≠ .object fields) ∧ definition = {}) ∨
          ∃ fields, value = .object fields ∧ definition.StoredIn fields) := by
  cases text with
  | none => simp [parse]
  | some raw =>
      cases read : Json.read? raw with
      | none =>
          by_cases filled : raw = ""
          · subst filled
            have empty : parse (some "") = .error .empty := rfl
            simp [empty, read]
          · simp [parse_of_unreadable filled read, filled, read]
      | some value =>
          have regular := Json.regular_of_read? read
          have filled : raw ≠ "" := by
            rintro rfl
            cases read
          rw [parse_of_read? read, ofValue_eq_error_iff regular, exists_ofValue_eq_ok_iff regular]
          simp [ofValue_ne_empty, ofValue_eq_ok_iff regular, filled, read]

end Definition

end Chatflow
