import Chatflow.Json.Reader
import Chatflow.Json.Record
import Chatflow.Json.Writer

/-!
# Workflow definitions

A definition is the stored form of a workflow: nodes and edges in the order of the author, and
whatever else an editor keeps with them.  Reading and writing a definition loses nothing that the
program does not know; a member that may be `null` remembers whether it was `null` or absent.
-/

namespace Chatflow

open Json (Document Fields)

/-! ## Members that remember their absence -/

inductive Slot (α : Type) where
  | absent
  | null
  | given (value : α)
deriving DecidableEq, Repr

namespace Slot

def value? : Slot α → Option α
  | given value => some value
  | absent | null => none

def isPresent : Slot α → Bool
  | absent => false
  | null | given _ => true

def ofNullable : Option α → Slot α
  | some value => given value
  | none => null

/-- The field of a slot, which is left out if the slot is absent. -/
def field (key : String) (write : α → Json) : Slot α → Fields
  | absent => []
  | null => [(key, .null)]
  | given value => [(key, write value)]

/-- The slot of a member of a record. -/
def ofMember? (members : Document.Members) (key : String) (read : Document → Option α) :
    Option (Slot α) :=
  members.orDefault? key absent fun document => (document.nullable? read).map ofNullable

end Slot

/-! ## Parts of a definition -/

structure NodeData where
  label : Slot String := .absent
  config : Slot Fields := .absent
  extra : Fields := []
deriving DecidableEq

structure NodeSpec where
  id : String
  type : String := ""
  data : NodeData := {}
  extra : Fields := []
deriving DecidableEq

structure EdgeSpec where
  id : Slot String := .absent
  source : String
  target : String
  sourceHandle : Slot String := .absent
  extra : Fields := []
deriving DecidableEq

structure Definition where
  nodes : List NodeSpec := []
  edges : List EdgeSpec := []
  extra : Fields := []
deriving DecidableEq

/-! ## Reading

The depth is the number of levels that arrays and objects may still nest, the record included. -/

def NodeData.ofDocument? (depth : Nat) (document : Document) : Option NodeData := do
  let (members, extra) ← document.membersAndExtra? ["label", "config"] (depth - 1)
  let label ← Slot.ofMember? members "label" Document.string?
  let config ← Slot.ofMember? members "config" (Document.fields? (depth - 1))
  some { label, config, extra }

def NodeSpec.ofDocument? (depth : Nat) (document : Document) : Option NodeSpec := do
  let (members, extra) ← document.membersAndExtra? ["id", "type", "data"] (depth - 1)
  let id ← members.required? "id" Document.string?
  let type ← members.orDefault? "type" "" Document.string?
  let data ← members.orDefault? "data" {} (NodeData.ofDocument? (depth - 1))
  some { id, type, data, extra }

def EdgeSpec.ofDocument? (depth : Nat) (document : Document) : Option EdgeSpec := do
  let (members, extra) ←
    document.membersAndExtra? ["id", "source", "target", "sourceHandle"] (depth - 1)
  let id ← Slot.ofMember? members "id" Document.string?
  let source ← members.required? "source" Document.string?
  let target ← members.required? "target" Document.string?
  let sourceHandle ← Slot.ofMember? members "sourceHandle" Document.string?
  some { id, source, target, sourceHandle, extra }

/-- Reads a list; `null` is as good as the empty one. -/
def nullableList? (read : Document → Option α) (document : Document) : Option (List α) :=
  (document.nullable? (Document.list? read)).map (·.getD [])

def Definition.ofDocument? (depth : Nat) (document : Document) : Option Definition := do
  let (members, extra) ← document.membersAndExtra? ["nodes", "edges"] (depth - 1)
  let nodes ← members.orDefault? "nodes" [] (nullableList? (NodeSpec.ofDocument? (depth - 2)))
  let edges ← members.orDefault? "edges" [] (nullableList? (EdgeSpec.ofDocument? (depth - 2)))
  some { nodes, edges, extra }

/-! ## Writing -/

def NodeData.toJson (data : NodeData) : Json :=
  .object (data.label.field "label" .string ++ data.config.field "config" .object ++ data.extra)

def NodeSpec.toJson (node : NodeSpec) : Json :=
  .object ([("id", .string node.id), ("type", .string node.type), ("data", node.data.toJson)] ++
    node.extra)

def EdgeSpec.toJson (edge : EdgeSpec) : Json :=
  .object (edge.id.field "id" .string ++
    [("source", .string edge.source), ("target", .string edge.target)] ++
    edge.sourceHandle.field "sourceHandle" .string ++ edge.extra)

def Definition.toJson (definition : Definition) : Json :=
  .object ([("nodes", .array (definition.nodes.map NodeSpec.toJson)),
      ("edges", .array (definition.edges.map EdgeSpec.toJson))] ++
    definition.extra)

/-! ## Stored text -/

inductive DefinitionError where
  | empty
  /-- The text is no definition; the reason is told where there is more to say. -/
  | invalidJson (reason : Option String)
deriving DecidableEq, Repr

namespace DefinitionError

/-- The error in the words that chat owners see. -/
def summary : DefinitionError → String
  | empty => "Empty workflow definition"
  | invalidJson _ => "Invalid JSON"

/-- What the trace of a run says about the error. -/
def traceEntry : DefinitionError → String
  | empty => "No definition found"
  | invalidJson _ => "Error parsing definition"

def message : DefinitionError → String
  | empty => "workflow definition is empty"
  | invalidJson (some reason) => "workflow definition is not valid JSON: " ++ reason
  | invalidJson none => summary (invalidJson none)

end DefinitionError

namespace Definition

/-- The definition that a free-form value says.  A value that is no object says nothing. -/
def ofValue (value : Json) : Except DefinitionError Definition :=
  match value with
  | .object _ =>
    match ofDocument? Document.maxDepth (.ofValue value) with
    | some definition => .ok definition
    | none => .error (.invalidJson none)
  | .null => .error (.invalidJson (some "definition is null"))
  | _ => .ok {}

/-- Reads the stored text of a definition, if there is one. -/
def parse (text : Option String) : Except DefinitionError Definition :=
  match text with
  | none => .error .empty
  | some text =>
    if text.isEmpty then .error .empty
    else
      match Json.read? text with
      | some value => ofValue value
      | none => .error (.invalidJson none)

/-- The text that stores a definition. -/
def text (definition : Definition) : String := definition.toJson.write

end Definition

end Chatflow
