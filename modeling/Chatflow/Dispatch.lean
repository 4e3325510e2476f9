import Chatflow.Run
import Chatflow.Store

/-!
# Dispatching updates

An update for a bot is looked at once: a tapped button is acknowledged, the workflows of the bot are
run on the event one after the other, and every run that matched is logged.  The store and the
services of runs are called from here; the first call that fails ends the dispatch.
-/

namespace Chatflow

/-! ## Calls -/

inductive DispatchCall where
  | findBot (id : BotId)
  | loadWorkflows (botId : BotId) (enabledOnly : Bool)
  | appendLog (log : ExecutionLog)
  | recordLastRun (botId : BotId) (time : Instant)
  /-- Gets ready to send in the name of a bot. -/
  | openTransport (token : String)
  | acknowledge (callbackId : String)
  | newLogId
  | run (call : RunCall)
deriving DecidableEq

def DispatchCall.Answer : DispatchCall → Type
  | findBot _ => Except StoreError (Option BotRecord)
  | loadWorkflows _ _ => Except StoreError (List StoredWorkflow)
  | appendLog _ => Except StoreError Unit
  | recordLastRun _ _ => Except StoreError Unit
  | openTransport _ => Except TransportError Unit
  | acknowledge _ => Except TransportError Unit
  | newLogId => LogId
  | run call => call.Answer

abbrev DispatchProgram := Program DispatchCall DispatchCall.Answer

namespace DispatchProgram

def findBot (id : BotId) : DispatchProgram (Except StoreError (Option BotRecord)) :=
  Program.ask (DispatchCall.findBot id)

def loadWorkflows (botId : BotId) : DispatchProgram (Except StoreError (List StoredWorkflow)) :=
  Program.ask (DispatchCall.loadWorkflows botId true)

def appendLog (log : ExecutionLog) : DispatchProgram (Except StoreError Unit) :=
  Program.ask (DispatchCall.appendLog log)

def recordLastRun (botId : BotId) (time : Instant) : DispatchProgram (Except StoreError Unit) :=
  Program.ask (DispatchCall.recordLastRun botId time)

def openTransport (token : String) : DispatchProgram (Except TransportError Unit) :=
  Program.ask (DispatchCall.openTransport token)

def acknowledge (callbackId : String) : DispatchProgram (Except TransportError Unit) :=
  Program.ask (DispatchCall.acknowledge callbackId)

def newLogId : DispatchProgram LogId := Program.ask DispatchCall.newLogId

def now : DispatchProgram Instant := Program.ask (DispatchCall.run .now)

def ofRun (program : RunProgram α) : DispatchProgram α :=
  Program.embed DispatchCall.run (fun _ answer => answer) program

end DispatchProgram

/-! ## Errors -/

inductive DispatchError where
  | botNotFound (botId : BotId)
  | loadBot (botId : BotId) (reason : String)
  | loadWorkflows (botId : BotId) (reason : String)
  | transport (botId : BotId) (reason : String)
  | appendLog (workflowId : WorkflowId) (reason : String)
  | recordLastRun (botId : BotId) (reason : String)
deriving DecidableEq, Repr

def DispatchError.message : DispatchError → String
  | botNotFound botId => "bot not found: " ++ botId.display
  | loadBot botId reason => "failed to load bot " ++ botId.display ++ ": " ++ reason
  | loadWorkflows botId reason =>
    "failed to load workflows for bot " ++ botId.display ++ ": " ++ reason
  | transport botId reason =>
    "failed to build transport for bot " ++ botId.display ++ ": " ++ reason
  | appendLog workflowId reason =>
    "failed to record execution of " ++ workflowId.display ++ ": " ++ reason
  | recordLastRun botId reason =>
    "failed to record last run of bot " ++ botId.display ++ ": " ++ reason

/-! ## Dispatches -/

structure WorkflowRun where
  workflowId : WorkflowId
  result : RunResult
deriving DecidableEq

/-- What an update led to: the event that it carried and the runs that matched. -/
structure DispatchSummary where
  event : Option InboundEvent := none
  runs : List WorkflowRun := []
deriving DecidableEq

def DispatchSummary.isIgnored (summary : DispatchSummary) : Bool := summary.event.isNone

abbrev DispatchAttempt := ExceptT DispatchError DispatchProgram

namespace DispatchAttempt

def require (call : DispatchProgram (Except ε α)) (error : ε → DispatchError) :
    DispatchAttempt α := do
  match ← call with
  | .ok value => return value
  | .error failure => throw (error failure)

end DispatchAttempt

open DispatchAttempt (require)

def openTransport (bot : BotRecord) (botId : BotId) : DispatchAttempt Unit :=
  require (DispatchProgram.openTransport bot.token) fun failure =>
    .transport botId failure.message

/-- Tells the platform that a tapped button was seen.  It does not matter if that fails. -/
def acknowledgeCallback (bot : BotRecord) (botId : BotId) (update : Update) :
    DispatchAttempt Unit := do
  match update.callbackQuery with
  | none => return
  | some query =>
    openTransport bot botId
    let _ ← DispatchProgram.acknowledge query.id
    return

/-- When a run ended, or else the present time. -/
def endOf (result : RunResult) : DispatchProgram Instant :=
  match result.finishedAt with
  | some time => return time
  | none => DispatchProgram.now

def runWorkflow (canGenerate : Bool) (orders : Nat → VariableOrder) (bot : BotRecord)
    (botId : BotId) (context : RunContext) (workflow : StoredWorkflow) :
    DispatchAttempt (Option WorkflowRun) := do
  openTransport bot botId
  let result ← ExceptT.lift (DispatchProgram.ofRun
    (Chatflow.run workflow.definition canGenerate orders (some workflow.id) context))
  if !result.isMatch then return none
  let logId ← DispatchProgram.newLogId
  let createdAt ← endOf result
  require (DispatchProgram.appendLog (.ofResult logId botId workflow.id result createdAt))
    fun failure => .appendLog workflow.id failure.message
  return some ⟨workflow.id, result⟩

/-- Runs workflows one after the other.  Each place in the list has the orders for the requests of
its run. -/
def runWorkflows (canGenerate : Bool) (orders : Nat → Nat → VariableOrder) (bot : BotRecord)
    (botId : BotId) (context : RunContext) :
    List StoredWorkflow → DispatchAttempt (List WorkflowRun)
  | [] => return []
  | workflow :: rest => do
    let found ← runWorkflow canGenerate (orders 0) bot botId context workflow
    let runs ← runWorkflows canGenerate (fun place => orders (place + 1)) bot botId context rest
    return found.toList ++ runs

def dispatchEvent (canGenerate : Bool) (orders : Nat → Nat → VariableOrder) (bot : BotRecord)
    (botId : BotId) (event : InboundEvent) : DispatchAttempt DispatchSummary := do
  let workflows ← require (DispatchProgram.loadWorkflows botId) fun failure =>
    .loadWorkflows botId failure.message
  let context := RunContext.ofEvent ⟨some bot.id, bot.token⟩ event
  let runs ← runWorkflows canGenerate orders bot botId context (workflows.filter (·.hasDefinition))
  let time ← DispatchProgram.now
  require (DispatchProgram.recordLastRun botId time) fun failure =>
    .recordLastRun botId failure.message
  return ⟨some event, runs⟩

def dispatch (canGenerate : Bool) (orders : Nat → Nat → VariableOrder) (botId : BotId)
    (update : Update) : DispatchAttempt DispatchSummary := do
  let found ← require (DispatchProgram.findBot botId) fun failure => .loadBot botId failure.message
  match found with
  | none => throw (.botNotFound botId)
  | some bot =>
    acknowledgeCallback bot botId update
    match InboundEvent.ofUpdate? update with
    | none => return {}
    | some event => dispatchEvent canGenerate orders bot botId event

end Chatflow
