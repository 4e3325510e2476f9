import Chatflow.Json.Numeral

/-!
# JSON documents

A document is what a JSON text says before its values are looked at: fields stand in the order of
the text, with repeated keys, and a string or number whose text is well-formed but has no value (an
unpaired surrogate, a magnitude beyond all finite numbers) is marked as such.  A record reads only
the parts of a document that belong to it, so a defect elsewhere does not matter; a free-form value
reads all of it.
-/

namespace Chatflow.Json

inductive Document where
  | null
  | bool (value : Bool)
  | number (value : Option Number)
  | string (value : Option String)
  | array (items : List Document)
  | object (fields : List (Option String × Document))
deriving Inhabited

namespace Document

/-! ## Free-form values -/

/-- The nesting of arrays and objects that a reader follows. -/
def maxDepth : Nat := 127

mutual

/-- The free-form value of a document that nests no deeper than the given depth. -/
def value? (depth : Nat) : Document → Option Json
  | .null => some .null
  | .bool value => some (.bool value)
  | .number value => value.map .number
  | .string value => value.map .string
  | .array items =>
    match depth with
    | 0 => none
    | depth + 1 => (itemValues? depth items).map .array
  | .object fields =>
    match depth with
    | 0 => none
    | depth + 1 => (fieldValues? depth fields).map fun values => .object (sortFields values)

def itemValues? (depth : Nat) : List Document → Option (List Json)
  | [] => some []
  | item :: items =>
    match value? depth item, itemValues? depth items with
    | some value, some values => some (value :: values)
    | _, _ => none

def fieldValues? (depth : Nat) : List (Option String × Document) → Option Fields
  | [] => some []
  | (key, document) :: fields =>
    match key, value? depth document, fieldValues? depth fields with
    | some key, some value, some values => some ((key, value) :: values)
    | _, _, _ => none

end

/-! ## Documents of values -/

mutual

/-- The document that says a value. -/
def ofValue : Json → Document
  | .null => .null
  | .bool value => .bool value
  | .number value => .number (some value)
  | .string value => .string (some value)
  | .array items => .array (ofItems items)
  | .object fields => .object (ofFields fields)

def ofItems : List Json → List Document
  | [] => []
  | item :: items => ofValue item :: ofItems items

def ofFields : Fields → List (Option String × Document)
  | [] => []
  | (key, value) :: fields => (some key, ofValue value) :: ofFields fields

end

end Document

end Chatflow.Json
