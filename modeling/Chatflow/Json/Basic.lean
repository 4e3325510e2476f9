import Chatflow.Decimal.Binary64
import Chatflow.Decimal.Word

/-!
# JSON values

A JSON value as the program keeps it.  A number is an integer from `-2 ^ 63` to `2 ^ 64 - 1` or a
finite binary number.  An object is the list of its fields in the order in which they are written.
The objects of free-form values are put together with `Json.put`, which keeps the keys sorted and
distinct; the objects that records write list the fields in the order of the record.
-/

namespace Chatflow

open Decimal

/-- An integer that a JSON number holds exactly. -/
structure Whole where
  value : Int
  inRange : -9223372036854775808 ≤ value ∧ value < 18446744073709551616
deriving DecidableEq

namespace Whole

def ofInt? (value : Int) : Option Whole :=
  if h : -9223372036854775808 ≤ value ∧ value < 18446744073709551616 then some ⟨value, h⟩ else none

@[simp] theorem ofInt?_value (n : Whole) : ofInt? n.value = some n := by
  simpa [ofInt?] using n.inRange

def ofInt64 (n : Int64) : Whole :=
  ⟨n.toInt, by
    have lower := Int64.le_toInt n
    have upper := Int64.toInt_lt n
    omega⟩

end Whole

inductive Number where
  | whole (n : Whole)
  | binary (x : Binary64)
deriving DecidableEq

inductive Json where
  | null
  | bool (value : Bool)
  | number (value : Number)
  | string (value : String)
  | array (items : List Json)
  | object (fields : List (String × Json))
deriving Inhabited

namespace Json

/-! ## Equality -/

mutual

def decideEq : (a b : Json) → Decidable (a = b)
  | .null, .null => isTrue rfl
  | .bool a, .bool b => decidable_of_iff (a = b) (by simp)
  | .number a, .number b => decidable_of_iff (a = b) (by simp)
  | .string a, .string b => decidable_of_iff (a = b) (by simp)
  | .array a, .array b =>
    match decideItemsEq a b with
    | isTrue h => isTrue (by rw [h])
    | isFalse h => isFalse (by simpa using h)
  | .object a, .object b =>
    match decideFieldsEq a b with
    | isTrue h => isTrue (by rw [h])
    | isFalse h => isFalse (by simpa using h)
  | .null, .bool _ | .null, .number _ | .null, .string _ | .null, .array _ | .null, .object _
  | .bool _, .null | .bool _, .number _ | .bool _, .string _ | .bool _, .array _
  | .bool _, .object _
  | .number _, .null | .number _, .bool _ | .number _, .string _ | .number _, .array _
  | .number _, .object _
  | .string _, .null | .string _, .bool _ | .string _, .number _ | .string _, .array _
  | .string _, .object _
  | .array _, .null | .array _, .bool _ | .array _, .number _ | .array _, .string _
  | .array _, .object _
  | .object _, .null | .object _, .bool _ | .object _, .number _ | .object _, .string _
  | .object _, .array _ => isFalse (by simp)

def decideItemsEq : (a b : List Json) → Decidable (a = b)
  | [], [] => isTrue rfl
  | [], _ :: _ | _ :: _, [] => isFalse (by simp)
  | a :: as, b :: bs =>
    match decideEq a b, decideItemsEq as bs with
    | isTrue h, isTrue hs => isTrue (by rw [h, hs])
    | isFalse h, _ => isFalse (by simp [h])
    | _, isFalse h => isFalse (by simp [h])

def decideFieldsEq : (a b : List (String × Json)) → Decidable (a = b)
  | [], [] => isTrue rfl
  | [], _ :: _ | _ :: _, [] => isFalse (by simp)
  | (k, a) :: as, (l, b) :: bs =>
    if hk : k = l then
      match decideEq a b, decideFieldsEq as bs with
      | isTrue h, isTrue hs => isTrue (by rw [hk, h, hs])
      | isFalse h, _ => isFalse (by simp [h])
      | _, isFalse h => isFalse (by simp [h])
    else isFalse (by simp [hk])

end

instance : DecidableEq Json := decideEq

/-! ## Objects -/

abbrev Fields := List (String × Json)

def put (key : String) (value : Json) : Fields → Fields
  | [] => [(key, value)]
  | (k, v) :: rest =>
    if key < k then (key, value) :: (k, v) :: rest
    else if key = k then (key, value) :: rest
    else (k, v) :: put key value rest

/-- Puts fields together so that the last value of a key counts. -/
def sortFields (fields : Fields) : Fields :=
  fields.foldl (fun sorted field => put field.1 field.2 sorted) []

def Fields.get? (fields : Fields) (key : String) : Option Json :=
  (fields.find? fun field => field.1 == key).map (·.2)

/-! ## Parts -/

def string? : Json → Option String
  | .string value => some value
  | _ => none

def array? : Json → Option (List Json)
  | .array items => some items
  | _ => none

def object? : Json → Option Fields
  | .object fields => some fields
  | _ => none

def get? (json : Json) (key : String) : Option Json :=
  json.object?.bind (Fields.get? · key)

def ofInt64 (n : Int64) : Json := .number (.whole (.ofInt64 n))

def ofStrings (texts : List String) : Json := .array (texts.map .string)

def ofOption (write : α → Json) : Option α → Json
  | some value => write value
  | none => .null

/-- A field that is left out if there is no value. -/
def fieldIfSome (key : String) (write : α → Json) (value : Option α) : Fields :=
  value.toList.map fun value => (key, write value)

end Json

end Chatflow
