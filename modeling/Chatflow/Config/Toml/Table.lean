import Chatflow.Config.Value

/-!
# Tables of TOML documents

The statements of a document build its tables.  A table may be opened once by a header, and before
that by headers of tables inside it; tables that come into being by keys with dots are only extended
by such keys; and the tables of a list are opened one after the other.  No key is set twice.
-/

namespace Chatflow.Config.Toml

inductive Origin where
  /-- By the header of a table inside it. -/
  | implied
  /-- By a key with dots. -/
  | dotted
  | declared
deriving DecidableEq, Repr

inductive Node where
  | leaf (value : Value)
  | table (origin : Origin) (entries : List (String × Node))
  /-- A list of tables, the newest of which stands first. -/
  | tables (items : List (List (String × Node)))

abbrev Nodes := List (String × Node)

namespace Node

mutual

def value : Node → Value
  | leaf value => value
  | table _ entries => .table (values entries)
  | tables items => .list (itemValues items).reverse

def values : Nodes → Value.Entries
  | [] => []
  | (key, node) :: rest => (key, node.value) :: values rest

def itemValues : List Nodes → List Value
  | [] => []
  | item :: rest => .table (values item) :: itemValues rest

end

def replace (key : String) (node : Node) : Nodes → Nodes
  | [] => [(key, node)]
  | (k, n) :: rest => if k = key then (key, node) :: rest else (k, n) :: replace key node rest

/-! ## Assignments -/

def assign (value : Value) : List String → Nodes → Option Nodes
  | [], _ => none
  | [key], nodes =>
    match nodes.lookup key with
    | some _ => none
    | none => some (nodes ++ [(key, leaf value)])
  | key :: next :: path, nodes =>
    match nodes.lookup key with
    | none => (assign value (next :: path) []).map fun inner => nodes ++ [(key, table .dotted inner)]
    | some (table origin inner) =>
      if origin = .declared ∨ (origin = .implied ∧ path.isEmpty) then none
      else
        (assign value (next :: path) inner).map fun inner =>
          replace key (table origin inner) nodes
    | some _ => none

/-! ## Headers -/

/-- Changes the table at the end of a path, which comes into being if it is not there.  Of a list of
tables the newest is meant. -/
def update (change : Nodes → Option Nodes) : List String → Nodes → Option Nodes
  | [], nodes => change nodes
  | key :: path, nodes =>
    match nodes.lookup key with
    | none => (update change path []).map fun inner => nodes ++ [(key, table .implied inner)]
    | some (table origin inner) =>
      (update change path inner).map fun inner => replace key (table origin inner) nodes
    | some (tables (newest :: older)) =>
      (update change path newest).map fun inner => replace key (tables (inner :: older)) nodes
    | some _ => none

def openTable (key : String) (nodes : Nodes) : Option Nodes :=
  match nodes.lookup key with
  | none => some (nodes ++ [(key, table .declared [])])
  | some (table .implied inner) => some (replace key (table .declared inner) nodes)
  | some _ => none

def openItem (key : String) (nodes : Nodes) : Option Nodes :=
  match nodes.lookup key with
  | none => some (nodes ++ [(key, tables [[]])])
  | some (tables items) => some (replace key (tables ([] :: items)) nodes)
  | some _ => none

end Node

/-! ## Documents -/

inductive Statement where
  | header (path : List String)
  | itemHeader (path : List String)
  | assignment (path : List String) (value : Value)

/-- A document so far: its tables, and the path of the table that is open. -/
structure Draft where
  nodes : Nodes := []
  path : List String := []

namespace Draft

def add (draft : Draft) : Statement → Option Draft
  | .header path =>
    match path.getLast? with
    | some key =>
      (Node.update (Node.openTable key) path.dropLast draft.nodes).map ({ nodes := ·, path })
    | none => none
  | .itemHeader path =>
    match path.getLast? with
    | some key =>
      (Node.update (Node.openItem key) path.dropLast draft.nodes).map ({ nodes := ·, path })
    | none => none
  | .assignment path value =>
    (Node.update (Node.assign value path) draft.path draft.nodes).map ({ draft with nodes := · })

end Draft

def entriesOf? (statements : List Statement) : Option Value.Entries :=
  (statements.foldlM Draft.add {}).map fun draft => Node.values draft.nodes

end Chatflow.Config.Toml
