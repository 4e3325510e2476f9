import Chatflow.Proofs.Dispatch.Course
import Chatflow.Proofs.Store.Change

/-!
# Dispatches on a store

What a dispatch does when a store answers its calls, while sending, generating and the clock are
answered by a platform of which nothing is known.
-/

namespace Chatflow

open Program (Runs Surroundings runs_pure_iff)

/-! ## Stores as surroundings -/

def DispatchCall.change? : DispatchCall → Option StoreChange
  | .appendLog log => some (.appendLog log)
  | .recordLastRun id time => some (.recordLastRun id time)
  | _ => none

namespace Store

/-- The store after the calls of a dispatch. -/
def after (store : Store) (history : List DispatchEvent) : Store :=
  store.applyAll (history.filterMap (·.call.change?))

/-- A store answers the calls for records and logs, every transport can be had, and the platform
answers everything else. -/
def surroundings (store : Store) (platform : Surroundings DispatchCall DispatchCall.Answer) :
    Surroundings DispatchCall DispatchCall.Answer
  | past, .findBot id => Except.ok ((store.after past.reverse).findBot id)
  | past, .loadWorkflows botId enabledOnly =>
    Except.ok ((store.after past.reverse).workflowsOf botId enabledOnly)
  | _, .appendLog _ => Except.ok ()
  | past, .recordLastRun id time =>
    ((store.after past.reverse).recordLastRun id time).map fun _ => ()
  | _, .openTransport _ => Except.ok ()
  | past, .acknowledge callbackId => platform past (.acknowledge callbackId)
  | past, .newLogId => platform past .newLogId
  | past, .run call => platform past (.run call)

theorem after_append (store : Store) (first second : List DispatchEvent) :
    store.after (first ++ second) = (store.after first).after second := by
  rw [after, List.filterMap_append, applyAll_append]
  rfl

end Store

/-- What a run meets after some calls of the dispatch that it is a part of. -/
def runSurroundings (surroundings : Surroundings DispatchCall DispatchCall.Answer)
    (past : List DispatchEvent) : Surroundings RunCall RunCall.Answer :=
  fun events call => surroundings (events.map DispatchEvent.ran ++ past) (.run call)

theorem answers_map_ran_iff {surroundings : Surroundings DispatchCall DispatchCall.Answer}
    {past : List DispatchEvent} (before events : List RunEvent) :
    surroundings.Answers (before.map DispatchEvent.ran ++ past) (events.map DispatchEvent.ran) ↔
      (runSurroundings surroundings past).Answers before events := by
  induction events generalizing before with
  | nil => exact Iff.rfl
  | cons event events ih => exact and_congr_right fun _ => ih (event :: before)

/-! ## Attempts -/

/-- A workflow that was run, and the log of the run if there is one. -/
structure WorkflowAttempt where
  workflow : StoredWorkflow
  events : List RunEvent
  result : RunResult
  log : Option ExecutionLog

namespace WorkflowAttempt

def calls (attempt : WorkflowAttempt) (token : String) : List DispatchEvent :=
  .opened token (.ok ()) :: (attempt.events.map .ran ++
    match attempt.log with
    | none => []
    | some log => logCalls attempt.result log (.ok ()))

def listed? (attempt : WorkflowAttempt) : Option WorkflowRun :=
  if attempt.result.status = .noMatch then none else some ⟨attempt.workflow.id, attempt.result⟩

/-- The attempt is made after some calls: its workflow runs on what these calls have left, and
there is a log if and only if the run matched. -/
structure Made (surroundings : Surroundings DispatchCall DispatchCall.Answer)
    (canGenerate : Bool) (orders : Nat → VariableOrder) (bot : BotRecord) (context : RunContext)
    (past : List DispatchEvent) (attempt : WorkflowAttempt) : Prop where
  ran :
    (run attempt.workflow.definition canGenerate orders (some attempt.workflow.id) context).runIn
      (runSurroundings surroundings (.opened bot.token (.ok ()) :: past)) =
    (attempt.result, attempt.events)
  logged : match attempt.log with
    | none => attempt.result.status = .noMatch
    | some log => attempt.result.status ≠ .noMatch ∧
      log.Records bot.id attempt.workflow.id attempt.result

/-- The attempts are made one after the other, each after all calls of those before it. -/
def MadeInTurn (surroundings : Surroundings DispatchCall DispatchCall.Answer)
    (canGenerate : Bool) (bot : BotRecord) (context : RunContext) :
    (Nat → Nat → VariableOrder) → List DispatchEvent → List WorkflowAttempt → Prop
  | _, _, [] => True
  | orders, past, attempt :: attempts =>
    attempt.Made surroundings canGenerate (orders 0) bot context past ∧
      MadeInTurn surroundings canGenerate bot context (fun place => orders (place + 1))
        ((attempt.calls bot.token).reverse ++ past) attempts

end WorkflowAttempt

open WorkflowAttempt (MadeInTurn)

theorem exists_log (store : Store) (platform : Surroundings DispatchCall DispatchCall.Answer)
    (botId : BotId) (workflowId : WorkflowId) (past : List DispatchEvent) (result : RunResult) :
    ∃ log : ExecutionLog, log.Records botId workflowId result ∧
      (store.surroundings platform).Answers past (logCalls result log (.ok ())) := by
  let id : LogId := platform past .newLogId
  cases ended : result.finishedAt with
  | some time =>
      have timely : time = result.finishedAt.getD time := by rw [ended, Option.getD_some]
      refine ⟨_, ExecutionLog.records_ofResult id timely, rfl, ?_⟩
      rw [endCalls, ended]
      exact ⟨rfl, trivial⟩
  | none =>
      let time : Instant := platform (DispatchEvent.numbered id :: past) (.run .now)
      have timely : time = result.finishedAt.getD time := by rw [ended, Option.getD_none]
      refine ⟨_, ExecutionLog.records_ofResult id timely, rfl, ?_⟩
      rw [endCalls, ended]
      exact ⟨rfl, rfl, trivial⟩

theorem exists_attempt (store : Store)
    (platform : Surroundings DispatchCall DispatchCall.Answer) (canGenerate : Bool)
    (orders : Nat → VariableOrder) (bot : BotRecord) (context : RunContext)
    (past : List DispatchEvent) (workflow : StoredWorkflow) :
    ∃ attempt : WorkflowAttempt, attempt.workflow = workflow ∧
      attempt.Made (store.surroundings platform) canGenerate orders bot context past ∧
      Runs (runWorkflow canGenerate orders bot bot.id context workflow).run
        (attempt.calls bot.token) (.ok attempt.listed?) ∧
      (store.surroundings platform).Answers past (attempt.calls bot.token) := by
  let surroundings := store.surroundings platform
  let opened : List DispatchEvent := .opened bot.token (.ok ()) :: past
  let program := run workflow.definition canGenerate orders (some workflow.id) context
  rcases ran : program.runIn (runSurroundings surroundings opened) with ⟨result, events⟩
  obtain ⟨runs, answers⟩ := Program.runIn_eq_iff.mp ran
  have running : surroundings.Answers opened (events.map DispatchEvent.ran) :=
    (answers_map_ran_iff [] events).mpr answers
  by_cases unmatched : result.status = .noMatch
  · refine ⟨⟨workflow, events, result, none⟩, rfl, ⟨ran, unmatched⟩, ?_, rfl, ?_⟩
    · rw [WorkflowAttempt.calls, WorkflowAttempt.listed?, List.append_nil, if_pos unmatched]
      exact runs_runWorkflow_iff.mpr (.unmatched runs unmatched)
    · rw [List.append_nil]
      exact running
  · obtain ⟨log, records, logging⟩ := exists_log store platform bot.id workflow.id
      ((events.map DispatchEvent.ran).reverse ++ opened) result
    refine ⟨⟨workflow, events, result, some log⟩, rfl, ⟨ran, unmatched, records⟩, ?_, rfl, ?_⟩
    · rw [WorkflowAttempt.calls, WorkflowAttempt.listed?, if_neg unmatched]
      exact runs_runWorkflow_iff.mpr (.matched runs unmatched records)
    · exact Program.Surroundings.answers_append_iff.mpr ⟨running, logging⟩

theorem exists_attempts (store : Store)
    (platform : Surroundings DispatchCall DispatchCall.Answer) (canGenerate : Bool)
    (orders : Nat → Nat → VariableOrder) (bot : BotRecord) (context : RunContext)
    (past : List DispatchEvent) (workflows : List StoredWorkflow) :
    ∃ attempts : List WorkflowAttempt, attempts.map (·.workflow) = workflows ∧
      MadeInTurn (store.surroundings platform) canGenerate bot context orders past attempts ∧
      Runs (runWorkflows canGenerate orders bot bot.id context workflows).run
        (attempts.flatMap (·.calls bot.token)) (.ok (attempts.filterMap (·.listed?))) ∧
      (store.surroundings platform).Answers past (attempts.flatMap (·.calls bot.token)) := by
  induction workflows generalizing orders past with
  | nil => exact ⟨[], rfl, trivial, runs_attempt_pure_iff.mpr ⟨rfl, rfl⟩, trivial⟩
  | cons workflow workflows ih =>
      obtain ⟨attempt, rfl, made, runs, answers⟩ :=
        exists_attempt store platform canGenerate (orders 0) bot context past workflow
      obtain ⟨attempts, rfl, later, runsLater, answersLater⟩ :=
        ih (fun place => orders (place + 1)) ((attempt.calls bot.token).reverse ++ past)
      refine ⟨attempt :: attempts, rfl, ⟨made, later⟩, ?_, ?_⟩
      · rw [runWorkflows, List.flatMap_cons]
        refine runs_attempt_bind_iff.mpr (.inr ⟨_, _, _, rfl, runs, ?_⟩)
        refine runs_attempt_bind_iff.mpr (.inr ⟨_, _, [], (List.append_nil _).symm, runsLater, ?_⟩)
        refine runs_attempt_pure_iff.mpr ⟨rfl, congrArg Except.ok ?_⟩
        rw [List.filterMap_cons]
        cases attempt.listed? <;> rfl
      · rw [List.flatMap_cons]
        exact Program.Surroundings.answers_append_iff.mpr ⟨answers, answersLater⟩

/-! ## What attempts leave behind -/

theorem changes_map_ran (events : List RunEvent) :
    (events.map DispatchEvent.ran).filterMap (·.call.change?) = [] := by
  rw [List.filterMap_eq_nil_iff]
  simp [DispatchEvent.ran, DispatchCall.change?]

theorem changes_logCalls (result : RunResult) (log : ExecutionLog)
    (answer : Except StoreError Unit) :
    (logCalls result log answer).filterMap (·.call.change?) = [.appendLog log] := by
  rw [logCalls, endCalls]
  cases result.finishedAt <;> rfl

theorem WorkflowAttempt.changes_calls (attempt : WorkflowAttempt) (token : String) :
    (attempt.calls token).filterMap (·.call.change?) = attempt.log.toList.map .appendLog := by
  change (attempt.events.map DispatchEvent.ran ++ _).filterMap (·.call.change?) = _
  rw [List.filterMap_append, changes_map_ran, List.nil_append]
  cases attempt.log with
  | none => rfl
  | some log => exact changes_logCalls attempt.result log (.ok ())

theorem changes_attempts (attempts : List WorkflowAttempt) (token : String) :
    (attempts.flatMap (·.calls token)).filterMap (·.call.change?) =
      (attempts.filterMap (·.log)).map .appendLog := by
  induction attempts with
  | nil => rfl
  | cons attempt attempts ih =>
      rw [List.flatMap_cons, List.filterMap_append, ih, attempt.changes_calls]
      cases logged : attempt.log <;> simp [logged]

end Chatflow
