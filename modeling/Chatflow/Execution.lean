import Chatflow.Definition
import Chatflow.Instant
import Chatflow.RecordId
import Chatflow.Update

/-!
# Runs of workflows

What a run starts from and what is reported of it.
-/

namespace Chatflow

open Json (Document)

/-! ## Context -/

/-- The bot that a run belongs to, with the secret that lets it send. -/
structure BotIdentity where
  id : Option BotId := none
  token : String := ""
deriving DecidableEq, Repr

structure RunContext where
  bot : BotIdentity := {}
  chat : ChatId
  userText : String
  userName : Option String := none
  isCallback : Bool := false
deriving DecidableEq, Repr

def RunContext.ofEvent (bot : BotIdentity) (event : InboundEvent) : RunContext where
  bot
  chat := event.chat
  userText := event.text
  userName := event.userName
  isCallback := event.isCallback

/-! ## Status -/

inductive RunStatus where
  | success
  | failed
  | noMatch
deriving DecidableEq, Repr

namespace RunStatus

def name : RunStatus → String
  | success => "SUCCESS"
  | failed => "FAILED"
  | noMatch => "NO_MATCH"

def toJson (status : RunStatus) : Json := .string status.name

def ofDocument? : Document → Option RunStatus :=
  Document.name? ([success, failed, noMatch].map fun status => (status.name, status))

end RunStatus

/-! ## Results -/

structure RunResult where
  status : RunStatus
  steps : List String
  error : Option String := none
  workflowId : Option WorkflowId := none
  startedAt : Option Instant := none
  finishedAt : Option Instant := none
deriving DecidableEq

namespace RunResult

def noMatch : RunResult := { status := .noMatch, steps := [] }

def success (steps : List String) : RunResult := { status := .success, steps }

def failed (steps : List String) (error : String) : RunResult :=
  { status := .failed, steps, error := some error }

def ofDefinitionError (error : DefinitionError) : RunResult :=
  failed [error.traceEntry] error.summary

def withWorkflowId (result : RunResult) (workflowId : Option WorkflowId) : RunResult :=
  { result with workflowId }

def withTiming (result : RunResult) (startedAt finishedAt : Instant) : RunResult :=
  { result with startedAt := some startedAt, finishedAt := some finishedAt }

def isSuccess (result : RunResult) : Bool := result.status == .success

def isFailed (result : RunResult) : Bool := result.status == .failed

/-- Whether a trigger matched, or the definition could not be looked at. -/
def isMatch (result : RunResult) : Bool := result.status != .noMatch

/-! ### JSON -/

def toJson (result : RunResult) : Json :=
  .object ([("status", result.status.toJson), ("steps", .ofStrings result.steps)] ++
    Json.fieldIfSome "error" .string result.error ++
    Json.fieldIfSome "workflowId" RecordId.toJson result.workflowId ++
    Json.fieldIfSome "startedAt" Instant.toJson result.startedAt ++
    Json.fieldIfSome "finishedAt" Instant.toJson result.finishedAt)

def ofDocument? (document : Document) : Option RunResult := do
  let members ← document.members?
    ["status", "steps", "error", "workflowId", "startedAt", "finishedAt"]
  let status ← members.required? "status" RunStatus.ofDocument?
  let steps ← members.required? "steps" (Document.list? Document.string?)
  let error ← members.orDefault? "error" none (Document.nullable? Document.string?)
  let workflowId ← members.orDefault? "workflowId" none (Document.nullable? RecordId.ofDocument?)
  let startedAt ← members.orDefault? "startedAt" none (Document.nullable? Instant.ofDocument?)
  let finishedAt ← members.orDefault? "finishedAt" none (Document.nullable? Instant.ofDocument?)
  some { status, steps, error, workflowId, startedAt, finishedAt }

end RunResult

end Chatflow
