import Chatflow.Proofs.Dispatch.Event

/-!
# The course of a dispatch

How the parts of a dispatch go: getting ready to send, acknowledging a tapped button, and running
one workflow and logging its run.
-/

namespace Chatflow

open Program (Runs runs_bind_iff runs_pure_iff)

variable {canGenerate : Bool} {orders : Nat → VariableOrder} {bot : BotRecord} {botId : BotId}
  {workflowId : WorkflowId} {context : RunContext} {workflow : StoredWorkflow} {result : RunResult}
  {log : ExecutionLog} {history : List DispatchEvent}

theorem runs_openTransport_bind_iff {α : Type} {next : Unit → DispatchAttempt α}
    {outcome : Except DispatchError α} :
    Runs (openTransport bot botId >>= next).run history outcome ↔
      (∃ failure, history = [.opened bot.token (.error failure)] ∧
        outcome = .error (.transport botId failure.message)) ∨
      ∃ later, history = .opened bot.token (.ok ()) :: later ∧
        Runs (next ()).run later outcome := by
  rw [openTransport, runs_require_bind_iff]
  simp only [runs_open_iff]
  constructor
  · rintro (⟨failure, rfl, rfl⟩ | ⟨_, _, later, rfl, rfl, runs⟩)
    · exact .inl ⟨failure, rfl, rfl⟩
    · exact .inr ⟨later, rfl, runs⟩
  · rintro (⟨failure, rfl, rfl⟩ | ⟨later, rfl, runs⟩)
    · exact .inl ⟨failure, rfl, rfl⟩
    · exact .inr ⟨(), _, later, rfl, rfl, runs⟩

/-! ## Acknowledging -/

def acknowledgement (bot : BotRecord) (update : Update)
    (answer : Except TransportError Unit) : List DispatchEvent :=
  match update.callbackQuery with
  | none => []
  | some query => [.opened bot.token (.ok ()), .acknowledged query.id answer]

/-! ## Workflows -/

/-- What the workflows of a bot are run on when something is said to it. -/
def BotRecord.contextOn (bot : BotRecord) (event : InboundEvent) : RunContext where
  bot := { id := some bot.id, token := bot.token }
  chat := event.chat
  userText := event.text
  userName := event.userName
  isCallback := event.callbackId.isSome

theorem BotRecord.ofEvent_eq_contextOn (bot : BotRecord) (event : InboundEvent) :
    RunContext.ofEvent ⟨some bot.id, bot.token⟩ event = bot.contextOn event := rfl

def StoredWorkflow.HasText (workflow : StoredWorkflow) : Prop :=
  ∃ text, workflow.definition = some text ∧ text ≠ ""

theorem StoredWorkflow.hasDefinition_iff : workflow.hasDefinition = true ↔ workflow.HasText := by
  simp [hasDefinition, HasText, Option.any_eq_true]

instance (workflow : StoredWorkflow) : Decidable workflow.HasText :=
  decidable_of_iff _ StoredWorkflow.hasDefinition_iff

theorem StoredWorkflow.hasDefinition_eq_decide :
    workflow.hasDefinition = decide workflow.HasText := by
  rw [Bool.eq_iff_iff, decide_eq_true_iff, hasDefinition_iff]

theorem RunResult.isMatch_eq_true_iff : result.isMatch = true ↔ result.status ≠ .noMatch := by
  simp [isMatch]

theorem RunResult.isMatch_eq_false_iff : result.isMatch = false ↔ result.status = .noMatch := by
  simp [isMatch]

/-- The log tells of a run of a workflow.  Its time is the end of the run, if the run has one. -/
structure ExecutionLog.Records (log : ExecutionLog) (botId : BotId) (workflowId : WorkflowId)
    (result : RunResult) : Prop where
  botId : log.botId = botId
  workflowId : log.workflowId = workflowId
  status : log.status = result.status
  steps : log.steps = result.steps
  error : log.error = result.error
  createdAt : log.createdAt = result.finishedAt.getD log.createdAt

theorem ExecutionLog.records_ofResult {time : Instant} (id : LogId)
    (timely : time = result.finishedAt.getD time) :
    (ofResult id botId workflowId result time).Records botId workflowId result where
  botId := rfl
  workflowId := rfl
  status := rfl
  steps := rfl
  error := rfl
  createdAt := timely

theorem ExecutionLog.Records.eq_ofResult (records : log.Records botId workflowId result) :
    log = .ofResult log.id botId workflowId result log.createdAt := by
  cases log
  obtain ⟨rfl, rfl, rfl, rfl, rfl, -⟩ := records
  rfl

def endCalls (result : RunResult) (time : Instant) : List DispatchEvent :=
  match result.finishedAt with
  | some _ => []
  | none => [.ran (.told time)]

def logCalls (result : RunResult) (log : ExecutionLog) (answer : Except StoreError Unit) :
    List DispatchEvent :=
  .numbered log.id :: endCalls result log.createdAt ++ [.logged log answer]

theorem runs_endOf_iff {time : Instant} :
    Runs (endOf result) history time ↔
      history = endCalls result time ∧ time = result.finishedAt.getD time := by
  rw [endOf, endCalls]
  cases result.finishedAt with
  | some ended => exact runs_pure_iff
  | none =>
      rw [runs_now_iff]
      exact (and_iff_left rfl).symm

theorem runs_appendLog_bind_iff {α : Type} {error : StoreError → DispatchError} {value : α}
    {outcome : Except DispatchError α} :
    Runs (DispatchAttempt.require (DispatchProgram.appendLog log) error >>= fun _ =>
        pure value).run history outcome ↔
      ∃ answer, history = [.logged log answer] ∧
        outcome = match answer with
          | .ok _ => .ok value
          | .error failure => .error (error failure) := by
  rw [runs_require_bind_iff]
  simp only [runs_appendLog_iff]
  constructor
  · rintro (⟨failure, rfl, rfl⟩ | ⟨done, _, after, rfl, rfl, ended⟩)
    · exact ⟨.error failure, rfl, rfl⟩
    · obtain ⟨rfl, rfl⟩ := runs_attempt_pure_iff.mp ended
      exact ⟨.ok done, List.append_nil _, rfl⟩
  · rintro ⟨answer, rfl, rfl⟩
    cases answer with
    | ok done => exact .inr ⟨done, _, [], rfl, rfl, runs_attempt_pure_iff.mpr ⟨rfl, rfl⟩⟩
    | error refusal => exact .inl ⟨refusal, rfl, rfl⟩

/-- The ways in which the run of one workflow can go. -/
inductive WorkflowCourse (canGenerate : Bool) (orders : Nat → VariableOrder) (bot : BotRecord)
    (botId : BotId) (context : RunContext) (workflow : StoredWorkflow) :
    List DispatchEvent → Except DispatchError (Option WorkflowRun) → Prop
  | closed {failure : TransportError} :
      WorkflowCourse canGenerate orders bot botId context workflow
        [.opened bot.token (.error failure)]
        (.error (.transport botId failure.message))
  | unmatched {events : List RunEvent} {result : RunResult}
      (runs : Runs (run workflow.definition canGenerate orders (some workflow.id) context) events
        result)
      (unmatched : result.status = .noMatch) :
      WorkflowCourse canGenerate orders bot botId context workflow
        (.opened bot.token (.ok ()) :: events.map .ran) (.ok none)
  | matched {events : List RunEvent} {result : RunResult} {log : ExecutionLog}
      {answer : Except StoreError Unit}
      (runs : Runs (run workflow.definition canGenerate orders (some workflow.id) context) events
        result)
      (matched : result.status ≠ .noMatch) (records : log.Records botId workflow.id result) :
      WorkflowCourse canGenerate orders bot botId context workflow
        (.opened bot.token (.ok ()) :: (events.map .ran ++ logCalls result log answer))
        (match answer with
          | .ok _ => .ok (some ⟨workflow.id, result⟩)
          | .error failure => .error (.appendLog workflow.id failure.message))

theorem runs_runWorkflow_iff {outcome : Except DispatchError (Option WorkflowRun)} :
    Runs (runWorkflow canGenerate orders bot botId context workflow).run history outcome ↔
      WorkflowCourse canGenerate orders bot botId context workflow history outcome := by
  rw [runWorkflow, runs_openTransport_bind_iff]
  constructor
  · rintro (⟨failure, rfl, rfl⟩ | ⟨later, rfl, runs⟩)
    · exact .closed
    · obtain ⟨result, _, rest, rfl, ran, ended⟩ := runs_attempt_lift_bind_iff.mp runs
      obtain ⟨events, rfl, course⟩ := runs_ofRun_iff.mp ran
      cases matched : result.isMatch with
      | false =>
          rw [matched] at ended
          obtain ⟨rfl, rfl⟩ := runs_attempt_pure_iff.mp ended
          rw [List.append_nil]
          exact .unmatched course (RunResult.isMatch_eq_false_iff.mp matched)
      | true =>
          rw [matched] at ended
          obtain ⟨id, _, _, rfl, numbered, logging⟩ := runs_attempt_lift_bind_iff.mp ended
          cases runs_newLogId_iff.mp numbered
          obtain ⟨time, _, _, rfl, looked, appending⟩ := runs_attempt_lift_bind_iff.mp logging
          obtain ⟨rfl, timely⟩ := runs_endOf_iff.mp looked
          obtain ⟨answer, rfl, rfl⟩ := runs_appendLog_bind_iff.mp appending
          exact .matched course (RunResult.isMatch_eq_true_iff.mp matched)
            (ExecutionLog.records_ofResult id timely)
  · intro course
    cases course with
    | closed => exact .inl ⟨_, rfl, rfl⟩
    | unmatched runs unmatched =>
        refine .inr ⟨_, rfl, runs_attempt_lift_bind_iff.mpr
          ⟨_, _, [], (List.append_nil _).symm, runs_ofRun_iff.mpr ⟨_, rfl, runs⟩, ?_⟩⟩
        rw [RunResult.isMatch_eq_false_iff.mpr unmatched]
        exact runs_attempt_pure_iff.mpr ⟨rfl, rfl⟩
    | @matched events result log answer runs matched records =>
        refine .inr ⟨_, rfl, runs_attempt_lift_bind_iff.mpr
          ⟨result, _, logCalls result log answer, rfl, runs_ofRun_iff.mpr ⟨_, rfl, runs⟩, ?_⟩⟩
        rw [RunResult.isMatch_eq_true_iff.mpr matched]
        refine runs_attempt_lift_bind_iff.mpr ⟨log.id, [.numbered log.id], _, rfl,
          runs_newLogId_iff.mpr rfl, ?_⟩
        refine runs_attempt_lift_bind_iff.mpr ⟨log.createdAt, endCalls result log.createdAt, _,
          rfl, runs_endOf_iff.mpr ⟨rfl, records.createdAt⟩, ?_⟩
        refine runs_appendLog_bind_iff.mpr ⟨answer, ?_, rfl⟩
        rw [← records.eq_ofResult]

end Chatflow
