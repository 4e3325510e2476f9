import Chatflow.Config.Toml.Reader
import Chatflow.Config.Yaml.Reader
import Chatflow.Json.Reader

/-!
# Configuration files

The extension of a file tells its format.  Whatever the format, the file holds a table.
-/

namespace Chatflow.Config

open Decimal

/-! ## JSON -/

/-- An integer, or a real number if it does not fit into 64 bits with a sign. -/
def ofWhole (n : Whole) : Value :=
  if FitsSigned n.value then .integer n.value
  else .real (.ofDecimal false n.value.toNat 0)

mutual

def ofJson : Json → Value
  | .null => .null
  | .bool value => .boolean value
  | .number (.whole n) => ofWhole n
  | .number (.binary x) => .real (.finite x)
  | .string value => .text value
  | .array items => .list (ofItems items)
  | .object fields => .table (ofFields fields)

def ofItems : List Json → List Value
  | [] => []
  | item :: items => ofJson item :: ofItems items

def ofFields : Json.Fields → Value.Entries
  | [] => []
  | (key, value) :: fields => (key, ofJson value) :: ofFields fields

end

/-! ## Files -/

inductive Format where
  | json
  | toml
  | yaml
deriving DecidableEq, Repr

namespace Format

def ofExtension? (extension : String) : Option Format :=
  [("json", json), ("toml", toml), ("yaml", yaml), ("yml", yaml)].lookup extension

/-- The part of a file's name after its last dot; a dot at the start of the name does not count. -/
def extensionOf? (path : String) : Option String :=
  let name := ((Text.split path '/').getLast?).getD ""
  match (Text.split name '.').reverse with
  | last :: before :: more => if before.isEmpty && more.isEmpty then none else some last
  | _ => none

def ofPath? (path : String) : Option Format := (extensionOf? path).bind ofExtension?

def read? (format : Format) (text : String) : Option Value :=
  match format with
  | json => (Json.read? text).map ofJson
  | toml => (Toml.read? text).map .table
  | yaml => Yaml.read? text

end Format

def dropByteOrderMark (text : String) : String :=
  match text.toList with
  | '\uFEFF' :: rest => String.ofList rest
  | _ => text

def fileEntries? (path text : String) : Option Value.Entries :=
  match (Format.ofPath? path).bind (·.read? (dropByteOrderMark text)) with
  | some (.table entries) => some entries
  | _ => none

end Chatflow.Config
