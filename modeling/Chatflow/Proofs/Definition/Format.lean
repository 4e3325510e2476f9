import Chatflow.Definition
import Chatflow.Proofs.Json.Record

/-!
# The stored format

Which objects are definitions, and what they say.  Both are told by what an object has at each key:
a member that may be `null`, may be absent, or has to be there, and a field that no member is read
from may hold anything.
-/

namespace Chatflow

open Json (Fields)

/-! ## What is accepted -/

/-- The key is absent, or it has `null` or a value of the kind. -/
def Json.Fields.Allows {α : Type} (fields : Fields) (key : String) (kind : α → Json) : Prop :=
  fields.get? key = none ∨ fields.get? key = some .null ∨
    ∃ value, fields.get? key = some (kind value)

structure NodeData.Accepts (fields : Fields) : Prop where
  label : fields.Allows "label" Json.string
  config : fields.Allows "config" Json.object

structure NodeSpec.Accepts (fields : Fields) : Prop where
  id : ∃ id, fields.get? "id" = some (.string id)
  type : fields.get? "type" = none ∨ ∃ type, fields.get? "type" = some (.string type)
  data : fields.get? "data" = none ∨
    ∃ inner, fields.get? "data" = some (.object inner) ∧ NodeData.Accepts inner

structure EdgeSpec.Accepts (fields : Fields) : Prop where
  id : fields.Allows "id" Json.string
  source : ∃ source, fields.get? "source" = some (.string source)
  target : ∃ target, fields.get? "target" = some (.string target)
  sourceHandle : fields.Allows "sourceHandle" Json.string

/-- The key is absent, or it has `null` or an array of objects that are accepted. -/
def Json.Fields.AllowsList (fields : Fields) (key : String) (accepts : Fields → Prop) : Prop :=
  fields.get? key = none ∨ fields.get? key = some .null ∨
    ∃ items, fields.get? key = some (.array items) ∧
      ∀ item ∈ items, ∃ inner, item = .object inner ∧ accepts inner

structure Definition.Accepts (fields : Fields) : Prop where
  nodes : fields.AllowsList "nodes" NodeSpec.Accepts
  edges : fields.AllowsList "edges" EdgeSpec.Accepts

/-! ## What is said -/

/-- What is found at the key of a slot. -/
def Slot.stored? {α : Type} (kind : α → Json) : Slot α → Option Json
  | absent => none
  | null => some .null
  | given value => some (kind value)

structure NodeData.StoredIn (fields : Fields) (data : NodeData) : Prop where
  label : fields.get? "label" = data.label.stored? Json.string
  config : fields.get? "config" = data.config.stored? Json.object
  extra : data.extra = fields.without ["label", "config"]

structure NodeSpec.StoredIn (fields : Fields) (node : NodeSpec) : Prop where
  id : fields.get? "id" = some (.string node.id)
  type : fields.get? "type" = some (.string node.type) ∨
    fields.get? "type" = none ∧ node.type = ""
  data : (∃ inner, fields.get? "data" = some (.object inner) ∧ node.data.StoredIn inner) ∨
    fields.get? "data" = none ∧ node.data = {}
  extra : node.extra = fields.without ["id", "type", "data"]

structure EdgeSpec.StoredIn (fields : Fields) (edge : EdgeSpec) : Prop where
  id : fields.get? "id" = edge.id.stored? Json.string
  source : fields.get? "source" = some (.string edge.source)
  target : fields.get? "target" = some (.string edge.target)
  sourceHandle : fields.get? "sourceHandle" = edge.sourceHandle.stored? Json.string
  extra : edge.extra = fields.without ["id", "source", "target", "sourceHandle"]

/-- The parts are what the items of the array say, in their order. -/
def ListStoredIn {α : Type} (means : Fields → α → Prop) (fields : Fields) (key : String)
    (parts : List α) : Prop :=
  (∃ items, fields.get? key = some (.array items) ∧
      List.Forall₂ (fun item part => ∃ inner, item = .object inner ∧ means inner part) items parts) ∨
    (fields.get? key = none ∨ fields.get? key = some .null) ∧ parts = []

structure Definition.StoredIn (fields : Fields) (definition : Definition) : Prop where
  nodes : ListStoredIn NodeSpec.StoredIn fields "nodes" definition.nodes
  edges : ListStoredIn EdgeSpec.StoredIn fields "edges" definition.edges
  extra : definition.extra = fields.without ["nodes", "edges"]

/-! ## Accepted objects say something -/

variable {α : Type} {fields : Fields} {key : String}

theorem Slot.exists_stored?_iff {kind : α → Json} :
    (∃ slot : Slot α, fields.get? key = slot.stored? kind) ↔ fields.Allows key kind := by
  constructor
  · rintro ⟨slot, found⟩
    cases slot with
    | absent => exact .inl found
    | null => exact .inr (.inl found)
    | given value => exact .inr (.inr ⟨value, found⟩)
  · rintro (missing | null | ⟨value, found⟩)
    · exact ⟨.absent, missing⟩
    · exact ⟨.null, null⟩
    · exact ⟨.given value, found⟩

theorem NodeData.exists_storedIn_iff :
    (∃ data : NodeData, data.StoredIn fields) ↔ NodeData.Accepts fields := by
  constructor
  · rintro ⟨data, stored⟩
    exact ⟨Slot.exists_stored?_iff.mp ⟨_, stored.label⟩,
      Slot.exists_stored?_iff.mp ⟨_, stored.config⟩⟩
  · intro accepts
    obtain ⟨label, hasLabel⟩ := Slot.exists_stored?_iff.mpr accepts.label
    obtain ⟨config, hasConfig⟩ := Slot.exists_stored?_iff.mpr accepts.config
    exact ⟨⟨label, config, _⟩, hasLabel, hasConfig, rfl⟩

theorem NodeSpec.exists_storedIn_iff :
    (∃ node : NodeSpec, node.StoredIn fields) ↔ NodeSpec.Accepts fields := by
  constructor
  · rintro ⟨node, stored⟩
    refine ⟨⟨_, stored.id⟩, ?_, ?_⟩
    · rcases stored.type with found | ⟨missing, -⟩
      · exact .inr ⟨_, found⟩
      · exact .inl missing
    · rcases stored.data with ⟨inner, found, said⟩ | ⟨missing, -⟩
      · exact .inr ⟨inner, found, NodeData.exists_storedIn_iff.mp ⟨_, said⟩⟩
      · exact .inl missing
  · intro accepts
    obtain ⟨id, hasId⟩ := accepts.id
    have typed : ∃ type : String, fields.get? "type" = some (.string type) ∨
        fields.get? "type" = none ∧ type = "" := by
      rcases accepts.type with missing | ⟨type, found⟩
      · exact ⟨"", .inr ⟨missing, rfl⟩⟩
      · exact ⟨type, .inl found⟩
    have filled : ∃ data : NodeData,
        (∃ inner, fields.get? "data" = some (.object inner) ∧ data.StoredIn inner) ∨
          fields.get? "data" = none ∧ data = {} := by
      rcases accepts.data with missing | ⟨inner, found, inside⟩
      · exact ⟨{}, .inr ⟨missing, rfl⟩⟩
      · obtain ⟨data, said⟩ := NodeData.exists_storedIn_iff.mpr inside
        exact ⟨data, .inl ⟨inner, found, said⟩⟩
    obtain ⟨type, hasType⟩ := typed
    obtain ⟨data, hasData⟩ := filled
    exact ⟨⟨id, type, data, _⟩, hasId, hasType, hasData, rfl⟩

theorem EdgeSpec.exists_storedIn_iff :
    (∃ edge : EdgeSpec, edge.StoredIn fields) ↔ EdgeSpec.Accepts fields := by
  constructor
  · rintro ⟨edge, stored⟩
    exact ⟨Slot.exists_stored?_iff.mp ⟨_, stored.id⟩, ⟨_, stored.source⟩, ⟨_, stored.target⟩,
      Slot.exists_stored?_iff.mp ⟨_, stored.sourceHandle⟩⟩
  · intro accepts
    obtain ⟨id, hasId⟩ := Slot.exists_stored?_iff.mpr accepts.id
    obtain ⟨source, hasSource⟩ := accepts.source
    obtain ⟨target, hasTarget⟩ := accepts.target
    obtain ⟨handle, hasHandle⟩ := Slot.exists_stored?_iff.mpr accepts.sourceHandle
    exact ⟨⟨id, source, target, handle, _⟩, hasId, hasSource, hasTarget, hasHandle, rfl⟩

theorem exists_forall₂_iff {β : Type} {related : α → β → Prop} {items : List α} :
    (∃ parts, List.Forall₂ related items parts) ↔ ∀ item ∈ items, ∃ part, related item part := by
  induction items with
  | nil => simp
  | cons item items ih =>
      simp only [List.forall_mem_cons, ← ih, List.forall₂_cons_left_iff]
      constructor
      · rintro ⟨_, part, parts, first, rest, rfl⟩
        exact ⟨⟨part, first⟩, parts, rest⟩
      · rintro ⟨⟨part, first⟩, parts, rest⟩
        exact ⟨_, part, parts, first, rest, rfl⟩

theorem exists_listStoredIn_iff {means : Fields → α → Prop} {accepts : Fields → Prop}
    (each : ∀ fields, (∃ part, means fields part) ↔ accepts fields) :
    (∃ parts, ListStoredIn means fields key parts) ↔ fields.AllowsList key accepts := by
  have item_iff (item : Json) : (∃ part inner, item = .object inner ∧ means inner part) ↔
      ∃ inner, item = .object inner ∧ accepts inner := by
    rw [exists_comm]
    simp only [exists_and_left, each]
  constructor
  · rintro ⟨parts, ⟨items, found, said⟩ | ⟨missing | null, -⟩⟩
    · refine .inr (.inr ⟨items, found, fun item member => (item_iff item).mp ?_⟩)
      exact exists_forall₂_iff.mp ⟨parts, said⟩ item member
    · exact .inl missing
    · exact .inr (.inl null)
  · rintro (missing | null | ⟨items, found, all⟩)
    · exact ⟨[], .inr ⟨.inl missing, rfl⟩⟩
    · exact ⟨[], .inr ⟨.inr null, rfl⟩⟩
    · obtain ⟨parts, said⟩ := exists_forall₂_iff.mpr fun item member =>
        (item_iff item).mpr (all item member)
      exact ⟨parts, .inl ⟨items, found, said⟩⟩

theorem Definition.exists_storedIn_iff :
    (∃ definition : Definition, definition.StoredIn fields) ↔ Definition.Accepts fields := by
  constructor
  · rintro ⟨definition, stored⟩
    exact ⟨(exists_listStoredIn_iff fun _ => NodeSpec.exists_storedIn_iff).mp ⟨_, stored.nodes⟩,
      (exists_listStoredIn_iff fun _ => EdgeSpec.exists_storedIn_iff).mp ⟨_, stored.edges⟩⟩
  · intro accepts
    obtain ⟨nodes, hasNodes⟩ :=
      (exists_listStoredIn_iff fun _ => NodeSpec.exists_storedIn_iff).mpr accepts.nodes
    obtain ⟨edges, hasEdges⟩ :=
      (exists_listStoredIn_iff fun _ => EdgeSpec.exists_storedIn_iff).mpr accepts.edges
    exact ⟨⟨nodes, edges, _⟩, hasNodes, hasEdges, rfl⟩

end Chatflow
