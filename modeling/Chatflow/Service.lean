import Chatflow.Agent
import Chatflow.Edge
import Chatflow.Instant
import Chatflow.Program

/-!
# Services of a run

A run looks at the clock, sends messages and has texts generated.  Each is a call that is answered
from outside, and sending and generating may fail.
-/

namespace Chatflow

inductive RunCall where
  | now
  | send (message : OutgoingMessage)
  | generate (request : GenerationRequest)
deriving DecidableEq, Repr

def RunCall.Answer : RunCall → Type
  | now => Instant
  | send _ => Except TransportError Receipt
  | generate _ => Except GenerationError String

abbrev RunProgram := Program RunCall RunCall.Answer

namespace RunProgram

def now : RunProgram Instant := Program.ask RunCall.now

def send (message : OutgoingMessage) : RunProgram (Except TransportError Receipt) :=
  Program.ask (RunCall.send message)

def generate (request : GenerationRequest) : RunProgram (Except GenerationError String) :=
  Program.ask (RunCall.generate request)

end RunProgram

/-- Why a node could not do what it is for. -/
inductive ActionError where
  | delivery (node : NodeId) (source : TransportError)
  | generation (node : NodeId) (source : GenerationError)
deriving DecidableEq, Repr

namespace ActionError

def node : ActionError → NodeId
  | delivery node _ | generation node _ => node

def message : ActionError → String
  | delivery _ source => source.message
  | generation _ source => source.message

end ActionError

end Chatflow
