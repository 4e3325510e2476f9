import Chatflow.Json.Basic
import Chatflow.Decimal.Shortest

/-!
# Writing JSON text

Compact text has no white space.  In strings the quote, the backslash and the control characters
are written as escapes and all else as itself.  A binary number is written with the fewest digits
that read back, positionally if the power of its first digit is at least −5 and below 16.
-/

namespace Chatflow.Json

open Decimal

/-! ## Strings -/

def hexDigit (n : Nat) : Char := Nat.digitChar (n % 16)

def escape (c : Char) : List Char :=
  if c = '"' then ['\\', '"']
  else if c = '\\' then ['\\', '\\']
  else if c = '\x08' then ['\\', 'b']
  else if c = '\x0c' then ['\\', 'f']
  else if c = '\n' then ['\\', 'n']
  else if c = '\r' then ['\\', 'r']
  else if c = '\t' then ['\\', 't']
  else if c.toNat < 0x20 then ['\\', 'u', '0', '0', hexDigit (c.toNat / 16), hexDigit c.toNat]
  else [c]

def writeString (text : String) : List Char := '"' :: text.toList.flatMap escape ++ ['"']

/-! ## Numbers -/

def isPositional (x : Scientific) : Bool :=
  let leading := x.power + ((Nat.toDigits 10 x.digits).length - 1 : Nat)
  decide (-5 ≤ leading ∧ leading < 16)

/-- The text of a binary number; a whole number written positionally gets a zero after the
point. -/
def binaryText (x : Binary64) : String :=
  let magnitude := x.shortest
  let text :=
    if isPositional magnitude then
      if 0 ≤ magnitude.power then magnitude.positional ++ ".0" else magnitude.positional
    else magnitude.exponential
  if x.negative then "-" ++ text else text

def numberText : Number → String
  | .whole n => toString n.value
  | .binary x => binaryText x

/-! ## Compact text -/

mutual

def writeChars : Json → List Char
  | .null => "null".toList
  | .bool true => "true".toList
  | .bool false => "false".toList
  | .number value => (numberText value).toList
  | .string text => writeString text
  | .array items => '[' :: writeItems items ++ [']']
  | .object fields => '{' :: writeFields fields ++ ['}']

def writeItems : List Json → List Char
  | [] => []
  | [item] => writeChars item
  | item :: next :: items => writeChars item ++ ',' :: writeItems (next :: items)

def writeFields : Fields → List Char
  | [] => []
  | [(key, value)] => writeString key ++ ':' :: writeChars value
  | (key, value) :: next :: fields =>
    writeString key ++ ':' :: writeChars value ++ ',' :: writeFields (next :: fields)

end

def write (json : Json) : String := String.ofList (writeChars json)

/-! ## Indented text -/

def indent (level : Nat) : String := "".pushn ' ' (2 * level)

mutual

def indentedLines (level : Nat) : Json → List String
  | .array [] => ["[]"]
  | .array (item :: items) => "[" :: indentedItems (level + 1) (item :: items) ++ [indent level ++ "]"]
  | .object [] => ["\x7b\x7d"]
  | .object (field :: fields) =>
    "\x7b" :: indentedFields (level + 1) (field :: fields) ++ [indent level ++ "\x7d"]
  | json => [write json]

def indentedItems (level : Nat) : List Json → List String
  | [] => []
  | item :: items =>
    closeLines level "" (indentedLines level item) items.isEmpty ++ indentedItems level items

def indentedFields (level : Nat) : Fields → List String
  | [] => []
  | (key, value) :: fields =>
    closeLines level (String.ofList (writeString key) ++ ": ") (indentedLines level value)
      fields.isEmpty ++ indentedFields level fields

/-- Indents the first line of a value behind its key and puts a comma after the last line of all
values but the last. -/
def closeLines (level : Nat) (key : String) (lines : List String) (last : Bool) : List String :=
  let comma := if last then "" else ","
  match lines with
  | [] => []
  | [line] => [indent level ++ key ++ line ++ comma]
  | line :: rest =>
    (indent level ++ key ++ line) :: rest.dropLast ++ [rest.getLast?.getD "" ++ comma]

end

end Chatflow.Json
