import Chatflow.Proofs.Definition.Reading
import Chatflow.Proofs.Json.Text

/-!
# Writing definitions

The text of a definition is read as the value that the definition was read from, where what may be
left out is filled in.
-/

namespace Chatflow

open Json (AllNumbers Document Fields Regular put sortFields get?_put
  get?_sortFields_append get?_sortFields_cons sortFields_of_sorted)
open Json.Document (ReadsAs fieldValues?_ofFields itemValues?_ofItems ofValue value?
  value?_ofValue)

variable {α : Type} {depth : Nat} {fields known values : Fields} {names : List String}
  {key other : String} {value : Json}

/-! ## Filling in -/

namespace Json.Fields

/-- Puts a value at a key that is absent. -/
def fill (fields : Fields) (key : String) (value : Json) : Fields :=
  match fields.get? key with
  | none => put key value fields
  | some _ => fields

/-- The items of the array at a key, if there is one. -/
def listAt (fields : Fields) (key : String) : List Json :=
  ((fields.get? key).bind Json.array?).getD []

theorem get?_fill :
    (fields.fill other value).get? key =
      if other = key then some ((fields.get? key).getD value) else fields.get? key := by
  rw [fill]
  cases found : fields.get? other with
  | none =>
      rw [get?_put]
      by_cases same : other = key
      · subst same
        rw [if_pos rfl, if_pos rfl, found]
        rfl
      · rw [if_neg same, if_neg same]
  | some held =>
      by_cases same : other = key
      · subst same
        rw [if_pos rfl, found]
        rfl
      · rw [if_neg same]

theorem Sorted.fill (sorted : fields.Sorted) : (fields.fill key value).Sorted := by
  rw [Fields.fill]
  cases fields.get? key with
  | none => exact sorted.put
  | some held => exact sorted

theorem without_eq_of_get? {others : Fields} (sorted : fields.Sorted)
    (others_sorted : others.Sorted)
    (same : ∀ key ∉ names, others.get? key = fields.get? key) :
    others.without names = fields.without names := by
  refine others_sorted.without.ext sorted.without fun key => ?_
  rw [get?_without, get?_without]
  by_cases known : key ∈ names
  · rw [if_pos known, if_pos known]
  · rw [if_neg known, if_neg known, same key known]

end Json.Fields

def NodeSpec.completedFields (fields : Fields) : Fields :=
  Fields.fill (Fields.fill fields "type" (.string "")) "data" (.object [])

/-- A node, where an absent type becomes the empty one and absent data become an empty object. -/
def NodeSpec.completed : Json → Json
  | .object fields => .object (completedFields fields)
  | json => json

def Definition.completedFields (fields : Fields) : Fields :=
  put "edges" (.array (Fields.listAt fields "edges"))
    (put "nodes" (.array ((Fields.listAt fields "nodes").map NodeSpec.completed)) fields)

/-- A definition, where nodes and edges that are absent or `null` become empty arrays and nodes are
completed.  A value that is no object becomes the definition of nothing. -/
def Definition.completed : Json → Json
  | .object fields => .object (completedFields fields)
  | _ => .object [("edges", .array []), ("nodes", .array [])]

theorem NodeSpec.sorted_completedFields (sorted : fields.Sorted) :
    (NodeSpec.completedFields fields).Sorted :=
  sorted.fill.fill

theorem NodeSpec.without_completedFields (sorted : fields.Sorted) :
    Fields.without ["id", "type", "data"] (NodeSpec.completedFields fields) =
      fields.without ["id", "type", "data"] := by
  refine Fields.without_eq_of_get? sorted (sorted_completedFields sorted) fun key other => ?_
  simp only [List.mem_cons, not_or] at other
  rw [completedFields, Fields.get?_fill, Fields.get?_fill, if_neg (Ne.symm other.2.2.1),
    if_neg (Ne.symm other.2.1)]

theorem Definition.sorted_completedFields (sorted : fields.Sorted) :
    (Definition.completedFields fields).Sorted :=
  sorted.put.put

theorem Definition.without_completedFields (sorted : fields.Sorted) :
    Fields.without ["nodes", "edges"] (Definition.completedFields fields) =
      fields.without ["nodes", "edges"] := by
  refine Fields.without_eq_of_get? sorted (sorted_completedFields sorted) fun key other => ?_
  simp only [List.mem_cons, not_or] at other
  rw [completedFields, get?_put, get?_put, if_neg (Ne.symm other.2.1), if_neg (Ne.symm other.1)]

/-! ## Values of written records -/

/-- The fields of a record are written in front of the other ones and then sorted among them. -/
theorem get?_sortFields_known_append (sorted : fields.Sorted)
    (inside : ∀ field ∈ values, field.1 ∈ names)
    (same : ∀ key ∈ names, (sortFields values).get? key = fields.get? key) :
    (sortFields (values ++ fields.without names)).get? key = fields.get? key := by
  rw [get?_sortFields_append, sortFields_of_sorted sorted.without, Fields.get?_without]
  by_cases member : key ∈ names
  · rw [if_pos member, Option.none_or, same key member]
  · have missing : (sortFields values).get? key = none := by
      rw [Fields.get?_eq_none_iff]
      rintro field found rfl
      exact member (inside field (Json.mem_of_mem_sortFields found))
    rw [if_neg member, missing, Option.or_none]

theorem value?_record_eq
    (each : List.Forall₂ (ReadsAs depth) known values)
    (sorted : fields.Sorted) (all : ∀ field ∈ fields.without names, Regular depth field.2)
    (inside : ∀ field ∈ values, field.1 ∈ names)
    (same : ∀ key ∈ names, (sortFields values).get? key = fields.get? key) :
    value? (depth + 1) (ofValue (.object (known ++ fields.without names))) =
      some (.object fields) := by
  have others : List.Forall₂ (ReadsAs depth) (fields.without names) (fields.without names) :=
    List.forall₂_same.mpr fun field member => ⟨rfl, value?_ofValue (all field member)⟩
  have equal : sortFields (values ++ fields.without names) = fields :=
    (Json.sorted_sortFields _).ext sorted fun key => get?_sortFields_known_append sorted inside same
  rw [ofValue, value?, fieldValues?_ofFields (List.rel_append each others), Option.map_some,
    equal]

theorem get?_slot_field {slot : Slot α} {kind : α → Json} :
    (sortFields (slot.field other kind)).get? key =
      if other = key then slot.stored? kind else none := by
  cases slot <;> simp [Slot.field, Slot.stored?, get?_sortFields_cons]

theorem mem_of_mem_slot_field {slot : Slot α} {kind : α → Json}
    (stored : fields.get? key = slot.stored? kind) {field : String × Json}
    (member : field ∈ slot.field key kind) : field ∈ fields ∧ field.1 = key := by
  cases slot with
  | absent => cases member
  | null | given _ =>
      cases List.mem_singleton.mp member
      exact ⟨Fields.mem_of_get?_eq_some stored, rfl⟩

theorem value?_record_of_subset (regular : Regular depth (.object fields))
    (inside : ∀ field ∈ known, field ∈ fields ∧ field.1 ∈ names)
    (same : ∀ key ∈ names, (sortFields known).get? key = fields.get? key) :
    value? depth (ofValue (.object (known ++ fields.without names))) = some (.object fields) := by
  cases regular with
  | @object depth _ sorted all =>
      refine value?_record_eq ?_ sorted ?_ (fun field member => (inside field member).2) same
      · refine List.forall₂_same.mpr fun field member => ⟨rfl, ?_⟩
        exact value?_ofValue (all field (inside field member).1)
      · exact fun field member => all field (List.mem_of_mem_filter member)

theorem NodeData.StoredIn.inside {data : NodeData} (stored : data.StoredIn fields) :
    ∀ field ∈ data.label.field "label" .string ++ data.config.field "config" .object,
      field ∈ fields ∧ field.1 ∈ ["label", "config"] := by
  intro field member
  rcases List.mem_append.mp member with label | config
  · obtain ⟨found, same⟩ := mem_of_mem_slot_field stored.label label
    exact ⟨found, by simp [same]⟩
  · obtain ⟨found, same⟩ := mem_of_mem_slot_field stored.config config
    exact ⟨found, by simp [same]⟩

theorem NodeData.value?_toJson {data : NodeData} (regular : Regular depth (.object fields))
    (stored : data.StoredIn fields) :
    value? depth (ofValue data.toJson) = some (.object fields) := by
  rw [toJson, stored.extra]
  refine value?_record_of_subset regular stored.inside ?_
  simp [get?_sortFields_append, get?_slot_field, stored.label, stored.config]

theorem EdgeSpec.StoredIn.inside {edge : EdgeSpec} (stored : edge.StoredIn fields) :
    ∀ field ∈ edge.id.field "id" .string ++
        [("source", .string edge.source), ("target", .string edge.target)] ++
        edge.sourceHandle.field "sourceHandle" .string,
      field ∈ fields ∧ field.1 ∈ ["id", "source", "target", "sourceHandle"] := by
  intro field member
  rw [List.mem_append, List.mem_append] at member
  rcases member with (id | ends) | handle
  · obtain ⟨found, same⟩ := mem_of_mem_slot_field stored.id id
    exact ⟨found, by simp [same]⟩
  · simp only [List.mem_cons, List.not_mem_nil, or_false] at ends
    rcases ends with rfl | rfl
    · exact ⟨Fields.mem_of_get?_eq_some stored.source, by simp⟩
    · exact ⟨Fields.mem_of_get?_eq_some stored.target, by simp⟩
  · obtain ⟨found, same⟩ := mem_of_mem_slot_field stored.sourceHandle handle
    exact ⟨found, by simp [same]⟩

theorem EdgeSpec.value?_toJson {edge : EdgeSpec} (regular : Regular depth (.object fields))
    (stored : edge.StoredIn fields) :
    value? depth (ofValue edge.toJson) = some (.object fields) := by
  rw [toJson, stored.extra]
  refine value?_record_of_subset regular stored.inside ?_
  simp [get?_sortFields_append, get?_sortFields_cons, get?_slot_field, stored.id, stored.source,
    stored.target, stored.sourceHandle]

namespace NodeSpec.StoredIn

variable {node : NodeSpec}

theorem type_getD (stored : node.StoredIn fields) :
    (fields.get? "type").getD (.string "") = .string node.type := by
  rcases stored.type with found | ⟨missing, empty⟩
  · rw [found]
    rfl
  · rw [missing, empty]
    rfl

theorem exists_data_getD (stored : node.StoredIn fields) :
    ∃ inner, (fields.get? "data").getD (.object []) = .object inner ∧
      node.data.StoredIn inner := by
  rcases stored.data with ⟨inner, found, within⟩ | ⟨missing, empty⟩
  · exact ⟨inner, by rw [found]; rfl, within⟩
  · rw [missing, empty]
    exact ⟨[], rfl, rfl, rfl, rfl⟩

theorem completed (sorted : fields.Sorted) (stored : node.StoredIn fields) :
    node.StoredIn (completedFields fields) := by
  obtain ⟨inner, data, within⟩ := stored.exists_data_getD
  refine ⟨?_, .inl ?_, .inl ⟨inner, ?_, within⟩, ?_⟩
  · simp [completedFields, Fields.get?_fill, stored.id]
  · simp [completedFields, Fields.get?_fill, stored.type_getD]
  · simp [completedFields, Fields.get?_fill, data]
  · rw [stored.extra, without_completedFields sorted]

end NodeSpec.StoredIn

theorem NodeSpec.value?_toJson {node : NodeSpec} (regular : Regular (depth + 2) (.object fields))
    (stored : node.StoredIn fields) :
    value? (depth + 2) (ofValue node.toJson) = some (NodeSpec.completed (.object fields)) := by
  cases regular with
  | object sorted all =>
      -- Data that were absent are written as an object of their own, one level deeper.
      have data : value? (depth + 1) (ofValue node.data.toJson) =
          some ((fields.get? "data").getD (.object [])) := by
        rcases stored.data with ⟨inner, found, within⟩ | ⟨missing, empty⟩
        · rw [found]
          exact NodeData.value?_toJson (Regular.get? all found) within
        · rw [missing, empty]
          rfl
      have each : List.Forall₂ (ReadsAs (depth + 1))
          [("id", .string node.id), ("type", .string node.type), ("data", node.data.toJson)]
          [("id", .string node.id), ("type", .string node.type),
            ("data", (fields.get? "data").getD (.object []))] :=
        .cons ⟨rfl, rfl⟩ (.cons ⟨rfl, rfl⟩ (.cons ⟨rfl, data⟩ .nil))
      rw [toJson, stored.extra, ← without_completedFields sorted]
      refine value?_record_eq each (sorted_completedFields sorted) ?_ ?_ ?_
      · rw [without_completedFields sorted]
        exact fun field member => all field (List.mem_of_mem_filter member)
      · simp
      · simp [completedFields, get?_sortFields_cons, Fields.get?_fill, stored.id,
          stored.type_getD]

/-! ## Definitions -/

theorem mem_listAt {item : Json} (member : item ∈ Fields.listAt fields key) :
    ∃ items, fields.get? key = some (.array items) ∧ item ∈ items := by
  cases found : fields.get? key with
  | none => simp [Fields.listAt, found] at member
  | some json =>
      cases json with
      | array items => exact ⟨items, rfl, by simpa [Fields.listAt, found, Json.array?] using member⟩
      | null | bool _ | number _ | string _ | object _ =>
          simp [Fields.listAt, found, Json.array?] at member

theorem regular_listAt (all : ∀ field ∈ fields, Regular (depth + 1) field.2) :
    ∀ item ∈ Fields.listAt fields key, Regular depth item := by
  intro item member
  obtain ⟨items, found, inside⟩ := mem_listAt member
  cases Regular.get? all found with
  | array regular => exact regular item inside

theorem ListStoredIn.forall₂_listAt {parts : List α} {means : Fields → α → Prop}
    (stored : ListStoredIn means fields key parts) :
    List.Forall₂ (fun item part => ∃ inner, item = .object inner ∧ means inner part)
      (Fields.listAt fields key) parts := by
  rcases stored with ⟨items, found, said⟩ | ⟨missing | null, rfl⟩
  · simpa [Fields.listAt, found, Json.array?] using said
  · simp [Fields.listAt, missing]
  · simp [Fields.listAt, null, Json.array?]

theorem value?_array_toJson {parts : List α} {means : Fields → α → Prop} {toJson : α → Json}
    {complete : Json → Json} (all : ∀ field ∈ fields, Regular (depth + 1) field.2)
    (stored : ListStoredIn means fields key parts)
    (each : ∀ inner part, Regular depth (.object inner) → means inner part →
      value? depth (ofValue (toJson part)) = some (complete (.object inner))) :
    value? (depth + 1) (ofValue (.array (parts.map toJson))) =
      some (.array ((Fields.listAt fields key).map complete)) := by
  have values : List.Forall₂ (fun item value => value? depth (ofValue item) = some value)
      (parts.map toJson) ((Fields.listAt fields key).map complete) := by
    rw [List.forall₂_map_left_iff, List.forall₂_map_right_iff]
    refine ((List.forall₂_and_left _ _).mpr ⟨regular_listAt all, stored.forall₂_listAt⟩).flip.imp ?_
    rintro part item ⟨inside, inner, rfl, meant⟩
    exact each inner part inside meant
  rw [ofValue, value?, itemValues?_ofItems values]
  rfl

theorem ListStoredIn.of_listAt {parts : List α} {means : Fields → α → Prop}
    {complete : Json → Json} {target : Fields} (stored : ListStoredIn means fields key parts)
    (all : ∀ field ∈ fields, Regular (depth + 1) field.2)
    (found : target.get? key = some (.array ((Fields.listAt fields key).map complete)))
    (each : ∀ inner part, Regular depth (.object inner) → means inner part →
      ∃ outer, complete (.object inner) = .object outer ∧ means outer part) :
    ListStoredIn means target key parts := by
  refine .inl ⟨_, found, ?_⟩
  rw [List.forall₂_map_left_iff]
  refine ((List.forall₂_and_left _ _).mpr ⟨regular_listAt all, stored.forall₂_listAt⟩).imp ?_
  rintro item part ⟨inside, inner, rfl, meant⟩
  exact each inner part inside meant

namespace Definition

variable {definition : Definition}

theorem value?_toJson (regular : Regular (depth + 4) (.object fields))
    (stored : definition.StoredIn fields) :
    value? (depth + 4) (.ofValue definition.toJson) = some (completed (.object fields)) := by
  cases regular with
  | object sorted all =>
      have nodes := value?_array_toJson all stored.nodes fun inner node regular meant =>
        NodeSpec.value?_toJson regular meant
      have edges : value? (depth + 3) (.ofValue (.array (definition.edges.map EdgeSpec.toJson))) =
          some (.array ((Fields.listAt fields "edges").map id)) :=
        value?_array_toJson all stored.edges fun inner edge regular meant =>
          EdgeSpec.value?_toJson regular meant
      rw [List.map_id] at edges
      have each : List.Forall₂ (ReadsAs (depth + 3))
          [("nodes", .array (definition.nodes.map NodeSpec.toJson)),
            ("edges", .array (definition.edges.map EdgeSpec.toJson))]
          [("nodes", .array ((Fields.listAt fields "nodes").map NodeSpec.completed)),
            ("edges", .array (Fields.listAt fields "edges"))] :=
        .cons ⟨rfl, nodes⟩ (.cons ⟨rfl, edges⟩ .nil)
      rw [toJson, stored.extra, ← without_completedFields sorted]
      refine value?_record_eq each (sorted_completedFields sorted) ?_ ?_ ?_
      · rw [without_completedFields sorted]
        exact fun field member => all field (List.mem_of_mem_filter member)
      · simp
      · simp [completedFields, get?_sortFields_cons, get?_put]

end Definition

/-! ## Numbers of written records -/

variable {kind : Number → Prop}

theorem allNumbers_record (numbers : AllNumbers kind (.object fields))
    (each : ∀ field ∈ known, AllNumbers kind field.2) :
    AllNumbers kind (.object (known ++ fields.without names)) := by
  refine .object (List.forall_mem_append.mpr ⟨each, fun field member => ?_⟩)
  exact numbers.of_mem (List.mem_of_mem_filter member)

theorem NodeData.allNumbers_toJson {data : NodeData} (numbers : AllNumbers kind (.object fields))
    (stored : data.StoredIn fields) : AllNumbers kind data.toJson := by
  rw [toJson, stored.extra]
  exact allNumbers_record numbers fun field member => numbers.of_mem (stored.inside field member).1

theorem EdgeSpec.allNumbers_toJson {edge : EdgeSpec} (numbers : AllNumbers kind (.object fields))
    (stored : edge.StoredIn fields) : AllNumbers kind edge.toJson := by
  rw [toJson, stored.extra]
  exact allNumbers_record numbers fun field member => numbers.of_mem (stored.inside field member).1

theorem NodeSpec.allNumbers_toJson {node : NodeSpec} (numbers : AllNumbers kind (.object fields))
    (stored : node.StoredIn fields) : AllNumbers kind node.toJson := by
  have data : AllNumbers kind node.data.toJson := by
    rcases stored.data with ⟨inner, found, within⟩ | ⟨-, empty⟩
    · exact NodeData.allNumbers_toJson (numbers.get? found) within
    · rw [empty]
      exact .object nofun
  rw [toJson, stored.extra]
  refine allNumbers_record numbers ?_
  simp only [List.forall_mem_cons, List.not_mem_nil, false_imp_iff, implies_true, and_true]
  exact ⟨.string _, .string _, data⟩

theorem allNumbers_array_toJson {parts : List α} {means : Fields → α → Prop} {toJson : α → Json}
    (numbers : AllNumbers kind (.object fields)) (stored : ListStoredIn means fields key parts)
    (each : ∀ inner part, AllNumbers kind (.object inner) → means inner part →
      AllNumbers kind (toJson part)) : AllNumbers kind (.array (parts.map toJson)) := by
  have items : ∀ item ∈ Fields.listAt fields key, AllNumbers kind item := by
    intro item member
    obtain ⟨items, found, inside⟩ := mem_listAt member
    cases numbers.get? found with
    | array all => exact all item inside
  have written := Json.forall_mem_of_forall₂ stored.forall₂_listAt fun item member part meant => by
    obtain ⟨inner, rfl, meant⟩ := meant
    exact each inner part (items _ member) meant
  refine .array fun item member => ?_
  obtain ⟨part, inside, rfl⟩ := List.mem_map.mp member
  exact written part inside

theorem Definition.allNumbers_toJson {definition : Definition}
    (numbers : AllNumbers kind (.object fields)) (stored : definition.StoredIn fields) :
    AllNumbers kind definition.toJson := by
  have nodes := allNumbers_array_toJson numbers stored.nodes fun _ _ inside meant =>
    NodeSpec.allNumbers_toJson inside meant
  have edges := allNumbers_array_toJson numbers stored.edges fun _ _ inside meant =>
    EdgeSpec.allNumbers_toJson inside meant
  rw [toJson, stored.extra]
  refine allNumbers_record numbers ?_
  simp only [List.forall_mem_cons, List.not_mem_nil, false_imp_iff, implies_true, and_true]
  exact ⟨nodes, edges⟩

/-! ## Reading again -/

namespace Definition

variable {definition : Definition}

theorem StoredIn.completed (regular : Regular (depth + 3) (.object fields))
    (stored : definition.StoredIn fields) : definition.StoredIn (completedFields fields) := by
  cases regular with
  | object sorted all =>
      have nodes_found : (completedFields fields).get? "nodes" =
          some (.array ((Fields.listAt fields "nodes").map NodeSpec.completed)) := by
        simp [completedFields, get?_put]
      have edges_found : (completedFields fields).get? "edges" =
          some (.array ((Fields.listAt fields "edges").map id)) := by
        simp [completedFields, get?_put]
      refine ⟨stored.nodes.of_listAt all nodes_found ?_, stored.edges.of_listAt all edges_found ?_,
        ?_⟩
      · intro inner node regular meant
        cases regular with
        | object inner_sorted _ => exact ⟨_, rfl, meant.completed inner_sorted⟩
      · exact fun inner edge _ meant => ⟨inner, rfl, meant⟩
      · rw [stored.extra, without_completedFields sorted]

theorem read?_text_of_storedIn (regular : Regular Document.maxDepth (.object fields))
    (numbers : AllNumbers Json.NumberReadsBack (.object fields))
    (stored : definition.StoredIn fields) :
    Json.read? definition.text = some (completed (.object fields)) := by
  rw [text, Json.read?_write (allNumbers_toJson numbers stored)]
  exact value?_toJson regular stored

theorem parse_text_of_storedIn (regular : Regular Document.maxDepth (.object fields))
    (numbers : AllNumbers Json.NumberReadsBack (.object fields))
    (stored : definition.StoredIn fields) : parse (some definition.text) = .ok definition := by
  have read := read?_text_of_storedIn regular numbers stored
  rw [parse_of_read? read, ofValue_eq_ok_iff (Json.regular_of_read? read)]
  exact .inr ⟨_, rfl, stored.completed regular⟩

/-- The empty definition is what the empty object says. -/
theorem storedIn_nil : ({} : Definition).StoredIn [] :=
  ⟨.inr ⟨.inl rfl, rfl⟩, .inr ⟨.inl rfl, rfl⟩, rfl⟩

theorem regular_nil : Regular Document.maxDepth (.object []) :=
  Regular.mono (.object .nil (List.forall_mem_nil _) : Regular 1 (.object [])) (by decide)

/-- A definition whose numbers are integers is written and read again without a change, and its
text has the value of the text that it was read from, where what may be left out is filled in. -/
theorem parse_text (raw : String) (document : Document) (definition : Definition)
    (read : Json.readDocument? raw = some document) (integral : document.Integral)
    (parsed : parse (some raw) = .ok definition) :
    parse (some definition.text) = .ok definition ∧
      ∃ value, Json.read? raw = some value ∧
        Json.read? definition.text = some (completed value) := by
  have filled : raw ≠ "" := by
    rintro rfl
    cases parsed
  cases value_read : Json.read? raw with
  | none =>
      rw [parse_of_unreadable filled value_read] at parsed
      cases parsed
  | some value =>
      have regular := Json.regular_of_read? value_read
      have numbers : AllNumbers Json.NumberReadsBack value := by
        rw [Json.read?, read] at value_read
        exact .of_integral integral value_read
      rw [parse_of_read? value_read, ofValue_eq_ok_iff regular] at parsed
      rcases parsed with ⟨given, flat, rfl⟩ | ⟨fields, rfl, stored⟩
      · have none : AllNumbers Json.NumberReadsBack (.object []) :=
          .object (List.forall_mem_nil _)
        refine ⟨parse_text_of_storedIn regular_nil none storedIn_nil, value, rfl, ?_⟩
        rw [read?_text_of_storedIn regular_nil none storedIn_nil]
        cases value with
        | object fields => exact absurd rfl (flat fields)
        | null | bool _ | number _ | string _ | array _ => rfl
      · exact ⟨parse_text_of_storedIn regular numbers stored, _, rfl,
          read?_text_of_storedIn regular numbers stored⟩

theorem parse_text_offset :
    let raw := "\x7b\"nodes\":[\x7b\"id\":\"1\",\"x\":-7\x7d],\"zoom\":2\x7d"
    let offset : Json := .number (.whole ⟨-7, by decide⟩)
    let zoom : Json := .number (.whole ⟨2, by decide⟩)
    let definition : Definition := {
      nodes := [{ id := "1", extra := [("x", offset)] }]
      extra := [("zoom", zoom)] }
    parse (some raw) = .ok definition ∧ parse (some definition.text) = .ok definition := by
  intro raw offset zoom definition
  let value : Json := .object
    [("nodes", .array [.object [("id", .string "1"), ("x", offset)]]), ("zoom", zoom)]
  have written : raw = value.write := by decide +kernel
  have numbers : AllNumbers Json.NumberReadsBack value := by
    refine .object (List.forall_mem_cons.mpr ⟨.array ?_, List.forall_mem_singleton.mpr ?_⟩)
    · refine List.forall_mem_singleton.mpr (.object ?_)
      exact List.forall_mem_cons.mpr
        ⟨.string _, List.forall_mem_singleton.mpr (.number (Json.numberReadsBack_whole _))⟩
    · exact .number (Json.numberReadsBack_whole _)
  have read : Json.readDocument? raw = some (.ofValue value) := by
    rw [written]
    exact Json.readDocument?_write numbers
  have integral : Document.Integral (.ofValue value) := by
    refine .object (List.forall_mem_cons.mpr ⟨.array ?_, List.forall_mem_singleton.mpr (.number _)⟩)
    refine List.forall_mem_singleton.mpr (.object ?_)
    exact List.forall_mem_cons.mpr ⟨.string _, List.forall_mem_singleton.mpr (.number _)⟩
  have parsed : parse (some raw) = .ok definition := by decide +kernel
  exact ⟨parsed, (parse_text raw _ definition read integral parsed).1⟩

end Definition

end Chatflow
