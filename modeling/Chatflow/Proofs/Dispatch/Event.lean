import Chatflow.Dispatch
import Chatflow.Proofs.Run.Event

/-!
# Events of dispatches

The calls that a dispatch makes with the answers to them, and how the parts of a dispatch run
through them.
-/

namespace Chatflow

open Program (Event Runs Surroundings runs_ask_iff runs_bind_iff runs_call_iff runs_done_iff
  runs_pure_iff)

abbrev DispatchEvent := Event DispatchCall DispatchCall.Answer

namespace DispatchEvent

def found (id : BotId) (answer : Except StoreError (Option BotRecord)) : DispatchEvent :=
  ⟨.findBot id, answer⟩

def loaded (botId : BotId) (answer : Except StoreError (List StoredWorkflow)) : DispatchEvent :=
  ⟨.loadWorkflows botId true, answer⟩

def logged (log : ExecutionLog) (answer : Except StoreError Unit) : DispatchEvent :=
  ⟨.appendLog log, answer⟩

def recorded (botId : BotId) (time : Instant) (answer : Except StoreError Unit) : DispatchEvent :=
  ⟨.recordLastRun botId time, answer⟩

def opened (token : String) (answer : Except TransportError Unit) : DispatchEvent :=
  ⟨.openTransport token, answer⟩

def acknowledged (callbackId : String) (answer : Except TransportError Unit) : DispatchEvent :=
  ⟨.acknowledge callbackId, answer⟩

def numbered (id : LogId) : DispatchEvent := ⟨.newLogId, id⟩

/-- A call of a run that is a part of the dispatch. -/
def ran (event : RunEvent) : DispatchEvent := ⟨.run event.call, event.answer⟩

def run? : DispatchEvent → Option RunEvent
  | ⟨.run call, answer⟩ => some ⟨call, answer⟩
  | _ => none

end DispatchEvent

variable {α β ε : Type} {history : List DispatchEvent}

/-! ## Calls -/

theorem runs_findBot_iff {id : BotId} {answer : Except StoreError (Option BotRecord)} :
    Runs (DispatchProgram.findBot id) history answer ↔ history = [.found id answer] :=
  runs_ask_iff

theorem runs_loadWorkflows_iff {botId : BotId}
    {answer : Except StoreError (List StoredWorkflow)} :
    Runs (DispatchProgram.loadWorkflows botId) history answer ↔
      history = [.loaded botId answer] :=
  runs_ask_iff

theorem runs_appendLog_iff {log : ExecutionLog} {answer : Except StoreError Unit} :
    Runs (DispatchProgram.appendLog log) history answer ↔ history = [.logged log answer] :=
  runs_ask_iff

theorem runs_recordLastRun_iff {botId : BotId} {time : Instant}
    {answer : Except StoreError Unit} :
    Runs (DispatchProgram.recordLastRun botId time) history answer ↔
      history = [.recorded botId time answer] :=
  runs_ask_iff

theorem runs_open_iff {token : String} {answer : Except TransportError Unit} :
    Runs (DispatchProgram.openTransport token) history answer ↔
      history = [.opened token answer] :=
  runs_ask_iff

theorem runs_acknowledge_iff {callbackId : String} {answer : Except TransportError Unit} :
    Runs (DispatchProgram.acknowledge callbackId) history answer ↔
      history = [.acknowledged callbackId answer] :=
  runs_ask_iff

theorem runs_newLogId_iff {id : LogId} :
    Runs DispatchProgram.newLogId history id ↔ history = [.numbered id] :=
  runs_ask_iff

theorem runs_now_iff {time : Instant} :
    Runs DispatchProgram.now history time ↔ history = [.ran (.told time)] :=
  runs_ask_iff

theorem runs_ofRun_iff {program : RunProgram α} {value : α} :
    Runs (DispatchProgram.ofRun program) history value ↔
      ∃ events, history = events.map .ran ∧ Runs program events value := by
  induction program generalizing history with
  | done result =>
      change Runs (Program.done result) history value ↔ _
      simp only [runs_done_iff]
      constructor
      · rintro ⟨rfl, rfl⟩
        exact ⟨[], rfl, rfl, rfl⟩
      · rintro ⟨_, rfl, rfl, rfl⟩
        exact ⟨rfl, rfl⟩
  | call request continuation ih =>
      change Runs (Program.call (DispatchCall.run request) fun answer =>
        DispatchProgram.ofRun (continuation answer)) history value ↔ _
      rw [runs_call_iff]
      simp only [runs_call_iff]
      constructor
      · rintro ⟨answer, _, rfl, later⟩
        obtain ⟨events, rfl, runs⟩ := (ih answer).mp later
        exact ⟨⟨request, answer⟩ :: events, rfl, answer, events, rfl, runs⟩
      · rintro ⟨_, rfl, answer, events, rfl, runs⟩
        exact ⟨answer, _, rfl, (ih answer).mpr ⟨events, rfl, runs⟩⟩

/-! ## Attempts -/

variable {outcome : Except DispatchError α}

theorem runs_attempt_pure_iff {value : α} :
    Runs (pure value : DispatchAttempt α).run history outcome ↔
      history = [] ∧ outcome = .ok value :=
  runs_pure_iff

theorem runs_attempt_bind_iff {first : DispatchAttempt β} {next : β → DispatchAttempt α} :
    Runs (first >>= next).run history outcome ↔
      (∃ failure, outcome = .error failure ∧ Runs first.run history (.error failure)) ∨
      ∃ value before after, history = before ++ after ∧ Runs first.run before (.ok value) ∧
        Runs (next value).run after outcome := by
  change Runs (first.run >>= ExceptT.bindCont next) history outcome ↔ _
  rw [runs_bind_iff]
  constructor
  · rintro ⟨before, value, after, rfl, runs, later⟩
    cases value with
    | ok value => exact .inr ⟨value, before, after, rfl, runs, later⟩
    | error failure =>
        obtain ⟨rfl, rfl⟩ := runs_pure_iff.mp later
        refine .inl ⟨failure, rfl, ?_⟩
        rw [List.append_nil]
        exact runs
  · rintro (⟨failure, rfl, runs⟩ | ⟨value, before, after, rfl, runs, later⟩)
    · exact ⟨history, _, [], (List.append_nil _).symm, runs, runs_pure_iff.mpr ⟨rfl, rfl⟩⟩
    · exact ⟨before, _, after, rfl, runs, later⟩

theorem runs_attempt_lift_bind_iff {program : DispatchProgram β}
    {next : β → DispatchAttempt α} :
    Runs (ExceptT.lift program >>= next).run history outcome ↔
      ∃ value before after, history = before ++ after ∧ Runs program before value ∧
        Runs (next value).run after outcome := by
  change Runs (program >>= (fun value => pure (.ok value)) >>= ExceptT.bindCont next) history
    outcome ↔ _
  rw [Program.bind_assoc, runs_bind_iff]
  constructor
  · rintro ⟨before, value, after, rfl, runs, later⟩
    exact ⟨value, before, after, rfl, runs, later⟩
  · rintro ⟨value, before, after, rfl, runs, later⟩
    exact ⟨before, value, after, rfl, runs, later⟩

theorem runs_require_iff {call : DispatchProgram (Except ε α)} {error : ε → DispatchError} :
    Runs (DispatchAttempt.require call error).run history outcome ↔
      ∃ answer, outcome = answer.mapError error ∧ Runs call history answer := by
  refine Iff.trans (@runs_attempt_lift_bind_iff _ _ _ _ call _) ?_
  constructor
  · rintro ⟨answer, before, after, rfl, runs, ended⟩
    refine ⟨answer, ?_⟩
    cases answer with
    | ok value | error failure =>
        obtain ⟨rfl, rfl⟩ := runs_pure_iff.mp ended
        rw [List.append_nil]
        exact ⟨rfl, runs⟩
  · rintro ⟨answer, rfl, runs⟩
    refine ⟨answer, history, [], (List.append_nil _).symm, runs, ?_⟩
    cases answer with
    | ok value | error failure => exact runs_pure_iff.mpr ⟨rfl, rfl⟩

theorem runs_require_bind_iff {call : DispatchProgram (Except ε β)} {error : ε → DispatchError}
    {next : β → DispatchAttempt α} :
    Runs (DispatchAttempt.require call error >>= next).run history outcome ↔
      (∃ failure, Runs call history (.error failure) ∧ outcome = .error (error failure)) ∨
      ∃ value before after, history = before ++ after ∧ Runs call before (.ok value) ∧
        Runs (next value).run after outcome := by
  simp only [runs_attempt_bind_iff, runs_require_iff]
  constructor
  · rintro (⟨_, rfl, answer, same, runs⟩ | ⟨value, before, after, rfl, ⟨answer, same, runs⟩, later⟩)
    · cases answer with
      | ok value => cases same
      | error failure =>
          cases same
          exact .inl ⟨failure, runs, rfl⟩
    · cases answer with
      | ok value =>
          cases same
          exact .inr ⟨value, before, after, rfl, runs, later⟩
      | error failure => cases same
  · rintro (⟨failure, runs, rfl⟩ | ⟨value, before, after, rfl, runs, later⟩)
    · exact .inl ⟨_, rfl, _, rfl, runs⟩
    · exact .inr ⟨value, before, after, rfl, ⟨_, rfl, runs⟩, later⟩

end Chatflow
