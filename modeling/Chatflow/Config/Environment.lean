import Chatflow.Config.Value

/-!
# Settings from the environment

A variable whose name starts with a common word sets the value at the path in the rest of its name,
the keys being separated by double underscores.  Case does not matter in names.  The text of a
variable that reads as a truth value or as a number counts as that.
-/

namespace Chatflow.Config.Environment

open Decimal

abbrev Variables := List (String × String)

def valueOf (text : String) : Value :=
  let word := Text.lower text
  if word = "true" then .boolean true
  else if word = "false" then .boolean false
  else
    match int64? text.toList with
    | some n => .integer n.toInt
    | none =>
      match RealNumber.ofChars? text.toList with
      | some x => .real x
      | none => .text text

def separator : String := "__"

def keyOf? (word name : String) : Option String :=
  let start := Text.lower (word ++ separator)
  let name := Text.lower name
  if Text.startsWith name start then
    let rest := String.ofList (name.toList.drop start.toList.length)
    some (Text.replaceAll rest separator ".")
  else none

/-- The entries that variables set; of several variables for a key the last counts. -/
def entries (word : String) (given : Variables) : Value.Entries :=
  given.foldl
    (fun entries (name, text) =>
      match keyOf? word name with
      | some key => Value.put key (valueOf text) entries
      | none => entries)
    []

end Chatflow.Config.Environment
