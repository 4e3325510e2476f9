import Chatflow.Definition

/-!
# Edges

An edge leads from one node to another.  Its handle tells at which exit of the source it starts;
conditions have an exit for each outcome.
-/

namespace Chatflow

/-- The name that an author gives to a node. -/
abbrev NodeId := String

inductive Handle where
  | whenTrue
  | whenFalse
  | named (name : String)
deriving DecidableEq, Repr

namespace Handle

def ofName (name : String) : Handle :=
  if name = "true" then whenTrue else if name = "false" then whenFalse else named name

def ofOutcome (outcome : Bool) : Handle := if outcome then whenTrue else whenFalse

end Handle

structure Edge where
  id : Option String := none
  source : NodeId
  target : NodeId
  handle : Option Handle := none
deriving DecidableEq, Repr

namespace Edge

def ofSpec (spec : EdgeSpec) : Edge where
  id := spec.id.value?
  source := spec.source
  target := spec.target
  handle := spec.sourceHandle.value?.map Handle.ofName

def isBranch (edge : Edge) (outcome : Bool) : Bool := edge.handle == some (Handle.ofOutcome outcome)

end Edge

end Chatflow
