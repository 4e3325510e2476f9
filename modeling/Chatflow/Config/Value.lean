import Chatflow.Decimal.Notation
import Chatflow.Text.LetterCase
import Chatflow.Text.Occurrence

/-!
# Values of configurations

A configuration is a tree of named values.  Several sources are laid over each other: tables are
merged key by key, and any other value replaces what was there.  Values are read leniently, so a
number may stand where a text is asked for and the other way round.
-/

namespace Chatflow.Config

open Decimal

inductive Value where
  | null
  | boolean (value : Bool)
  | integer (value : Int)
  | real (value : RealNumber)
  | text (value : String)
  | list (items : List Value)
  | table (entries : List (String × Value))
deriving Inhabited

namespace Value

abbrev Entries := List (String × Value)

/-- Sets the value of a key; a key that is there keeps its place. -/
def put (key : String) (value : Value) : Entries → Entries
  | [] => [(key, value)]
  | (k, v) :: rest => if k = key then (key, value) :: rest else (k, v) :: put key value rest

def entries : Value → Entries
  | table entries => entries
  | _ => []

def child (entries : Entries) (key : String) : Value := (entries.lookup key).getD null

/-! ## Merging -/

mutual

def overlay (base : Value) : Value → Value
  | table incoming => table (overlayEntries base.entries incoming)
  | other => other

def overlayEntries (base : Entries) : Entries → Entries
  | [] => base
  | (key, value) :: rest => overlayEntries (put key (overlay (child base key) value) base) rest

end

/-! ## Paths -/

/-- A step into a value: to what stands at a key, or to the item at a position, which counts from
the end if it is negative. -/
inductive Step where
  | key (name : String)
  | item (position : Int)
deriving DecidableEq, Repr

def items : Value → List Value
  | list items => items
  | _ => []

/-- The items with nulls behind or before them, so many that one stands at the position, and its
place among them. -/
def reach (position : Int) (items : List Value) : List Value × Nat :=
  if 0 ≤ position then
    (items ++ List.replicate (position.toNat + 1 - items.length) null, position.toNat)
  else
    (List.replicate (position.natAbs - items.length) null ++ items,
      items.length - position.natAbs)

def overlayAt (incoming base : Value) : List Step → Value
  | [] => overlay base incoming
  | .key name :: path =>
    table (put name (overlayAt incoming (child base.entries name) path) base.entries)
  | .item position :: path =>
    let (items, place) := reach position base.items
    list (items.set place (overlayAt incoming (items.getD place null) path))

def isKeyChar (c : Char) : Bool := c.isAlphanum || c == '_' || c == '-'

def isGap (c : Char) : Bool := c == ' ' || c == '\t'

def position? (cs : List Char) : Option Int :=
  match (((cs.dropWhile isGap).reverse.dropWhile isGap).reverse) with
  | '+' :: _ => none
  | digits => (int64? digits).map Int64.toInt

def itemStep? : List Char → Option Step
  | '[' :: inner => (position? inner).map .item
  | _ => none

def itemSteps? (cs : List Char) : Option (List Step) :=
  let pieces := Text.splitChars ']' cs
  if pieces.getLast? = some [] then pieces.dropLast.mapM itemStep? else none

def partSteps? (part : List Char) : Option (List Step) :=
  let name := part.takeWhile isKeyChar
  if name.isEmpty then none
  else (itemSteps? (part.dropWhile isKeyChar)).map (.key (String.ofList name) :: ·)

/-- The path that a key stands for.  A key that is no path stands for itself. -/
def keyPath (key : String) : List Step :=
  match (Text.splitChars '.' key.toList).mapM partSteps? with
  | some parts => parts.flatten
  | none => [.key key]

def addSource (base : Value) (source : Entries) : Value :=
  source.foldl (fun base (key, value) => overlayAt value base (keyPath key)) base

/-! ## Reading -/

def text? : Value → Option String
  | text value => some value
  | boolean value => some (if value then "true" else "false")
  | integer value => some (toString value)
  | real value => some value.text
  | null | list _ | table _ => none

def greatest : Nat := wordCount - 1

def naturalOfText? (value : String) : Option Nat :=
  let word := Text.lower value
  if word = "true" ∨ word = "on" ∨ word = "yes" then some 1
  else if word = "false" ∨ word = "off" ∨ word = "no" then some 0
  else (natural? value.toList).filter (· ≤ greatest)

def natural? : Value → Option Nat
  | integer value => if 0 ≤ value then some value.toNat else none
  | real value => some (value.toNatural greatest)
  | boolean value => some (if value then 1 else 0)
  | text value => naturalOfText? value
  | null | list _ | table _ => none

def nullable? (read : Value → Option α) : Value → Option (Option α)
  | null => some none
  | value => (read value).map some

def member (entries : Entries) (key : String) (default : α) (read : Value → Option α) : Option α :=
  match entries.lookup key with
  | some value => read value
  | none => some default

/-- The members of a record, which may also be a list of them in their order. -/
def members? (names : List String) : Value → Option Entries
  | table entries => some entries
  | list items => some (names.zip items)
  | _ => none

end Value

end Chatflow.Config
