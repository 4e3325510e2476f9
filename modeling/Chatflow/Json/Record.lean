import Chatflow.Json.Document

/-!
# Reading records

A record is written as an object with one field per member, in any order, or as the array of its
members in their declared order.  In an object a member may stand only once and other keys are
passed over; in an array the members at the end that have a default may be left out.
-/

namespace Chatflow.Json.Document

/-! ## Plain values -/

def string? : Document → Option String
  | .string value => value
  | _ => none

def bool? : Document → Option Bool
  | .bool value => some value
  | _ => none

def int64? : Document → Option Int64
  | .number (some (.whole n)) => Decimal.int64OfInt? n.value
  | _ => none

def list? (read : Document → Option α) : Document → Option (List α)
  | .array items => items.mapM read
  | _ => none

def nullable? (read : Document → Option α) : Document → Option (Option α)
  | .null => some none
  | document => (read document).map some

/-- One of several names, written as a string or as an object with the name and `null`. -/
def name? (names : List (String × α)) : Document → Option α
  | .string (some name) => names.lookup name
  | .object [(some name, .null)] => names.lookup name
  | _ => none

/-! ## Members -/

/-- The members found for a record, by name. -/
structure Members where
  /-- Whether the record is written as an array. -/
  positional : Bool
  found : List (String × Document)

def knownFields? (names : List String) :
    List (Option String × Document) → Option (List (String × Document))
  | [] => some []
  | (none, _) :: _ => none
  | (some key, document) :: fields =>
    match knownFields? names fields with
    | none => none
    | some found =>
      if !names.contains key then some found
      else if (found.lookup key).isSome then none
      else some ((key, document) :: found)

def members? (names : List String) : Document → Option Members
  | .array items =>
    if items.length ≤ names.length then some ⟨true, names.zip items⟩ else none
  | .object fields => (knownFields? names fields).map fun found => ⟨false, found⟩
  | _ => none

namespace Members

def required? (members : Members) (name : String) (read : Document → Option α) : Option α :=
  (members.found.lookup name).bind read

/-- A member that may be `null`; in an object it may also be absent. -/
def optional? (members : Members) (name : String) (read : Document → Option α) :
    Option (Option α) :=
  match members.found.lookup name with
  | some document => nullable? read document
  | none => if members.positional then none else some none

def orDefault? (members : Members) (name : String) (default : α) (read : Document → Option α) :
    Option α :=
  match members.found.lookup name with
  | some document => read document
  | none => some default

end Members

/-! ## Records that keep unknown fields -/

def extraFields? (names : List String) (depth : Nat) (fields : List (Option String × Document)) :
    Option Fields :=
  (fieldValues? depth
    (fields.filter fun field => !(field.1.any names.contains))).map sortFields

def membersAndExtra? (names : List String) (depth : Nat) : Document → Option (Members × Fields)
  | .object fields =>
    match knownFields? names fields, extraFields? names depth fields with
    | some found, some extra => some (⟨false, found⟩, extra)
    | _, _ => none
  | _ => none

def fields? (depth : Nat) (document : Document) : Option Fields :=
  (value? depth document).bind Json.object?

end Chatflow.Json.Document
