import Chatflow.Execution

/-!
# Stored records

Bots, their workflows and the log of their runs, and a store that holds them.  Records are known by
their ids.
-/

namespace Chatflow

open Json (Document)

/-! ## Bots -/

structure BotRecord where
  id : BotId
  name : String
  token : String
  lastRunAt : Option Instant := none
deriving DecidableEq

def BotRecord.toJson (bot : BotRecord) : Json :=
  .object [("id", bot.id.toJson), ("name", .string bot.name), ("token", .string bot.token),
    ("last_run_at", .ofOption Instant.toJson bot.lastRunAt)]

def BotRecord.ofDocument? (document : Document) : Option BotRecord := do
  let members ← document.members? ["id", "name", "token", "last_run_at"]
  let id ← members.required? "id" RecordId.ofDocument?
  let name ← members.required? "name" Document.string?
  let token ← members.required? "token" Document.string?
  let lastRunAt ← members.optional? "last_run_at" Instant.ofDocument?
  some { id, name, token, lastRunAt }

/-! ## Workflows -/

structure StoredWorkflow where
  id : WorkflowId
  botId : BotId
  name : String
  enabled : Bool := true
  definition : Option String
deriving DecidableEq, Repr

namespace StoredWorkflow

def disabled (workflow : StoredWorkflow) : StoredWorkflow := { workflow with enabled := false }

def hasDefinition (workflow : StoredWorkflow) : Bool := workflow.definition.any fun text => !text.isEmpty

def toJson (workflow : StoredWorkflow) : Json :=
  .object [("id", workflow.id.toJson), ("bot_id", workflow.botId.toJson),
    ("name", .string workflow.name), ("enabled", .bool workflow.enabled),
    ("definition_json", .ofOption .string workflow.definition)]

def ofDocument? (document : Document) : Option StoredWorkflow := do
  let members ← document.members? ["id", "bot_id", "name", "enabled", "definition_json"]
  let id ← members.required? "id" RecordId.ofDocument?
  let botId ← members.required? "bot_id" RecordId.ofDocument?
  let name ← members.required? "name" Document.string?
  let enabled ← members.required? "enabled" Document.bool?
  let definition ← members.optional? "definition_json" Document.string?
  some { id, botId, name, enabled, definition }

end StoredWorkflow

/-! ## Logs -/

structure ExecutionLog where
  id : LogId
  botId : BotId
  workflowId : WorkflowId
  status : RunStatus
  steps : List String
  error : Option String
  createdAt : Instant
deriving DecidableEq

namespace ExecutionLog

/-- The log of a run that came to an end at a time. -/
def ofResult (id : LogId) (botId : BotId) (workflowId : WorkflowId) (result : RunResult)
    (createdAt : Instant) : ExecutionLog where
  id
  botId
  workflowId
  status := result.status
  steps := result.steps
  error := result.error
  createdAt

def toJson (log : ExecutionLog) : Json :=
  .object [("id", log.id.toJson), ("bot_id", log.botId.toJson),
    ("workflow_id", log.workflowId.toJson), ("status", log.status.toJson),
    ("steps", .ofStrings log.steps), ("error", .ofOption .string log.error),
    ("created_at", log.createdAt.toJson)]

def ofDocument? (document : Document) : Option ExecutionLog := do
  let members ← document.members?
    ["id", "bot_id", "workflow_id", "status", "steps", "error", "created_at"]
  let id ← members.required? "id" RecordId.ofDocument?
  let botId ← members.required? "bot_id" RecordId.ofDocument?
  let workflowId ← members.required? "workflow_id" RecordId.ofDocument?
  let status ← members.required? "status" RunStatus.ofDocument?
  let steps ← members.required? "steps" (Document.list? Document.string?)
  let error ← members.optional? "error" Document.string?
  let createdAt ← members.required? "created_at" Instant.ofDocument?
  some { id, botId, workflowId, status, steps, error, createdAt }

end ExecutionLog

/-! ## Stores -/

inductive StoreError where
  | unavailable (reason : String)
  | notFound (entity id : String)
deriving DecidableEq, Repr

def StoreError.message : StoreError → String
  | unavailable reason => "store unavailable: " ++ reason
  | notFound entity id => entity ++ " not found: " ++ id

structure Store where
  bots : List BotRecord := []
  workflows : List StoredWorkflow := []
  logs : List ExecutionLog := []
deriving DecidableEq

namespace Store

/-- Puts a bot behind all others, in place of one with the same id. -/
def insertBot (store : Store) (bot : BotRecord) : Store :=
  { store with bots := store.bots.filter (·.id != bot.id) ++ [bot] }

/-- Puts a workflow where one with the same id stands, or else behind all others. -/
def putWorkflow (workflow : StoredWorkflow) : List StoredWorkflow → List StoredWorkflow
  | [] => [workflow]
  | first :: rest =>
    if first.id = workflow.id then workflow :: rest else first :: putWorkflow workflow rest

def insertWorkflow (store : Store) (workflow : StoredWorkflow) : Store :=
  { store with workflows := putWorkflow workflow store.workflows }

def findBot (store : Store) (id : BotId) : Option BotRecord := store.bots.find? (·.id == id)

/-- The workflows of a bot in stored order, all of them or the enabled ones. -/
def workflowsOf (store : Store) (botId : BotId) (enabledOnly : Bool) : List StoredWorkflow :=
  store.workflows.filter fun workflow =>
    workflow.botId == botId && (workflow.enabled || !enabledOnly)

def appendLog (store : Store) (log : ExecutionLog) : Store :=
  { store with logs := store.logs ++ [log] }

/-- Sets the time of the last run of the first bot with the id. -/
def touchBot (id : BotId) (time : Instant) : List BotRecord → Option (List BotRecord)
  | [] => none
  | bot :: rest =>
    if bot.id = id then some ({ bot with lastRunAt := some time } :: rest)
    else (touchBot id time rest).map (bot :: ·)

/-- Records when a bot ran last; the bot has to be there. -/
def recordLastRun (store : Store) (id : BotId) (time : Instant) : Except StoreError Store :=
  match touchBot id time store.bots with
  | some bots => .ok { store with bots }
  | none => .error (.notFound "bot" id.display)

end Store

end Chatflow
