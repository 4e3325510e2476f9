import Chatflow.Action
import Chatflow.Agent
import Chatflow.Condition
import Chatflow.Edge
import Chatflow.Trigger

/-!
# Nodes

A node is what a run meets on its way.  The type of a stored node tells which kind it is, and its
label and config tell the rest; nodes of unknown types are passed without doing anything.
-/

namespace Chatflow

inductive NodeKind where
  | trigger (trigger : Trigger)
  | condition (condition : Condition)
  | action (action : Action)
  | agent (agent : Agent)
  | other (type : String)
deriving DecidableEq, Repr

structure Node where
  id : NodeId
  label : String
  kind : NodeKind
deriving DecidableEq, Repr

namespace NodeKind

def typeName : NodeKind → String
  | trigger _ => "trigger"
  | condition _ => "condition"
  | action _ => "action"
  | agent _ => "agent"
  | other type => type

def isTrigger : NodeKind → Bool
  | trigger _ => true
  | _ => false

/-- Whether a run has something to do at a node. -/
def isExecutable : NodeKind → Bool
  | action _ | agent _ => true
  | _ => false

/-- The kind of a node of the given type. -/
def ofConfig (type label : String) (config : Json.Fields) : NodeKind :=
  if type = "trigger" then trigger (.ofConfig label config)
  else if type = "condition" then condition (.ofConfig label config)
  else if type = "action" then action (.ofConfig label config)
  else if type = "agent" then agent (.ofConfig config)
  else other type

end NodeKind

def Node.ofSpec (spec : NodeSpec) : Node :=
  let label := spec.data.label.value?.getD ""
  ⟨spec.id, label, .ofConfig spec.type label (spec.data.config.value?.getD [])⟩

end Chatflow
