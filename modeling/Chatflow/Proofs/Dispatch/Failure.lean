import Chatflow.Proofs.Dispatch.Effect
import Chatflow.Proofs.Dispatch.Stages
import Mathlib.Data.List.Forall2

/-!
# Failures of dispatches

The first call of a dispatch that fails ends it, with an error that names the call.  Whatever was
done by then stays done and would have been done in the same way if the call had succeeded.  Only
the acknowledgement of a tapped button may fail without consequences.
-/

namespace Chatflow

open List (Forall₂)
open Program (Runs Surroundings)

/-! ## Kinds of calls -/

namespace DispatchCall

def isForStore : DispatchCall → Bool
  | findBot _ | loadWorkflows _ _ | appendLog _ | recordLastRun _ _ => true
  | openTransport _ | acknowledge _ | newLogId | run _ => false

/-- Whether the call is one of those that run a workflow and log the run. -/
def isForWorkflow : DispatchCall → Bool
  | openTransport _ | run _ | newLogId | appendLog _ => true
  | findBot _ | loadWorkflows _ _ | recordLastRun _ _ | acknowledge _ => false

def isRecording : DispatchCall → Bool
  | recordLastRun _ _ => true
  | _ => false

def isAcknowledgement : DispatchCall → Bool
  | acknowledge _ => true
  | _ => false

theorem isForWorkflow_excludes {call : DispatchCall} (member : call.isForWorkflow = true) :
    call.isRecording = false ∧ call.isAcknowledgement = false := by
  cases call with
  | openTransport _ | run _ | newLogId | appendLog _ => exact ⟨rfl, rfl⟩
  | findBot _ | loadWorkflows _ _ | recordLastRun _ _ | acknowledge _ => cases member

end DispatchCall

/-! ## What histories say -/

namespace DispatchEvent

/-- The error that names the call, if the call failed and a dispatch cannot do without it. -/
def failure? (botId : BotId) : DispatchEvent → Option DispatchError
  | ⟨.findBot _, .error failure⟩ => some (.loadBot botId failure.message)
  | ⟨.findBot _, .ok none⟩ => some (.botNotFound botId)
  | ⟨.loadWorkflows _ _, .error failure⟩ => some (.loadWorkflows botId failure.message)
  | ⟨.appendLog log, .error failure⟩ => some (.appendLog log.workflowId failure.message)
  | ⟨.recordLastRun _ _, .error failure⟩ => some (.recordLastRun botId failure.message)
  | ⟨.openTransport _, .error failure⟩ => some (.transport botId failure.message)
  | _ => none

/-- The log, if the store took it. -/
def appended? : DispatchEvent → Option ExecutionLog
  | ⟨.appendLog log, .ok _⟩ => some log
  | _ => none

end DispatchEvent

def storeCalls (history : List DispatchEvent) : List DispatchCall :=
  (history.map (·.call)).filter (·.isForStore)

/-- The messages that were handed over in the course of a dispatch. -/
def messagesOf (history : List DispatchEvent) : List OutgoingMessage :=
  attempted (history.filterMap DispatchEvent.run?)

def appendedLogs (history : List DispatchEvent) : List ExecutionLog :=
  history.filterMap DispatchEvent.appended?

theorem storeCalls_append (first second : List DispatchEvent) :
    storeCalls (first ++ second) = storeCalls first ++ storeCalls second := by
  simp [storeCalls]

theorem messagesOf_append (first second : List DispatchEvent) :
    messagesOf (first ++ second) = messagesOf first ++ messagesOf second := by
  simp [messagesOf]

theorem appendedLogs_append (first second : List DispatchEvent) :
    appendedLogs (first ++ second) = appendedLogs first ++ appendedLogs second :=
  List.filterMap_append

/-- Nothing that is needed has failed, or the last call is the first that did and the outcome names
it. -/
inductive StopsAtFailure (botId : BotId) {α : Type} :
    List DispatchEvent → Except DispatchError α → Prop
  | finished {history : List DispatchEvent} {value : α}
      (fine : ∀ event ∈ history, event.failure? botId = none) :
      StopsAtFailure botId history (.ok value)
  | failed {before : List DispatchEvent} {last : DispatchEvent} {error : DispatchError}
      (fine : ∀ event ∈ before, event.failure? botId = none)
      (failing : last.failure? botId = some error) :
      StopsAtFailure botId (before ++ [last]) (.error error)

variable {canGenerate : Bool} {runOrders : Nat → VariableOrder}
  {orders : Nat → Nat → VariableOrder} {bot : BotRecord} {botId : BotId} {context : RunContext}
  {update : Update} {history : List DispatchEvent} {workflow : StoredWorkflow}
  {workflows : List StoredWorkflow} {error : DispatchError} {runs : List WorkflowRun} {α : Type}

theorem StopsAtFailure.append {before : List DispatchEvent} {outcome : Except DispatchError α}
    (stops : StopsAtFailure botId history outcome)
    (fine : ∀ event ∈ before, event.failure? botId = none) :
    StopsAtFailure botId (before ++ history) outcome := by
  cases stops with
  | finished later => exact .finished (List.forall_mem_append.mpr ⟨fine, later⟩)
  | failed later failing =>
      rw [← List.append_assoc]
      exact .failed (List.forall_mem_append.mpr ⟨fine, later⟩) failing

theorem StopsAtFailure.of_single {event : DispatchEvent}
    (failing : event.failure? botId = some error) :
    StopsAtFailure (α := α) botId [event] (.error error) := by
  rw [← List.nil_append [event]]
  exact .failed (by simp) failing

theorem StopsAtFailure.fine {value : α} (stops : StopsAtFailure botId history (.ok value)) :
    ∀ event ∈ history, event.failure? botId = none := by
  cases stops with
  | finished fine => exact fine

/-! ## The calls for a workflow -/

theorem forWorkflow_logCalls (result : RunResult) (log : ExecutionLog)
    (answer : Except StoreError Unit) :
    ∀ event ∈ logCalls result log answer, event.call.isForWorkflow = true := by
  unfold logCalls endCalls
  cases result.finishedAt <;> simp [DispatchEvent.numbered, DispatchEvent.logged,
    DispatchEvent.ran, RunEvent.told, DispatchCall.isForWorkflow]

theorem WorkflowCourse.forWorkflow {outcome : Except DispatchError (Option WorkflowRun)}
    (course : WorkflowCourse canGenerate runOrders bot botId context workflow history outcome) :
    ∀ event ∈ history, event.call.isForWorkflow = true := by
  have running (events : List RunEvent) :
      ∀ event ∈ events.map DispatchEvent.ran, event.call.isForWorkflow = true := by
    simp [DispatchEvent.ran, DispatchCall.isForWorkflow]
  cases course with
  | closed => exact List.forall_mem_singleton.mpr rfl
  | unmatched _ _ => exact List.forall_mem_cons.mpr ⟨rfl, running _⟩
  | matched _ _ _ =>
      exact List.forall_mem_cons.mpr
        ⟨rfl, List.forall_mem_append.mpr ⟨running _, forWorkflow_logCalls _ _ _⟩⟩

theorem WorkflowCourse.stops {outcome : Except DispatchError (Option WorkflowRun)}
    (course : WorkflowCourse canGenerate runOrders bot botId context workflow history outcome) :
    StopsAtFailure botId history outcome := by
  have running (events : List RunEvent) :
      ∀ event ∈ DispatchEvent.opened bot.token (.ok ()) :: events.map DispatchEvent.ran,
        event.failure? botId = none := by
    simp [DispatchEvent.opened, DispatchEvent.ran, DispatchEvent.failure?]
  cases course with
  | closed => exact .of_single rfl
  | unmatched _ _ => exact .finished (running _)
  | @matched events result log answer _ _ records =>
      have numbering : ∀ event ∈ DispatchEvent.numbered log.id :: endCalls result log.createdAt,
          event.failure? botId = none := by
        unfold endCalls
        cases result.finishedAt <;>
          simp [DispatchEvent.numbered, DispatchEvent.ran, RunEvent.told, DispatchEvent.failure?]
      refine (StopsAtFailure.append ?_ numbering).append (running events)
      cases answer with
      | ok done => exact .finished (by simp [DispatchEvent.logged, DispatchEvent.failure?])
      | error failure =>
          rw [← records.workflowId]
          exact .of_single rfl

theorem Completed.forWorkflow
    (completed : Completed canGenerate bot botId context orders workflows history runs) :
    ∀ event ∈ history, event.call.isForWorkflow = true := by
  induction completed with
  | nil => simp
  | cons first _ ih => exact List.forall_mem_append.mpr ⟨first.forWorkflow, ih⟩

theorem Completed.fine
    (completed : Completed canGenerate bot botId context orders workflows history runs) :
    ∀ event ∈ history, event.failure? botId = none := by
  induction completed with
  | nil => simp
  | cons first _ ih => exact List.forall_mem_append.mpr ⟨first.stops.fine, ih⟩

theorem Interrupted.forWorkflow
    (interrupted : Interrupted canGenerate bot botId context orders workflows history error) :
    ∀ event ∈ history, event.call.isForWorkflow = true := by
  induction interrupted with
  | here course => exact course.forWorkflow
  | later first _ ih => exact List.forall_mem_append.mpr ⟨first.forWorkflow, ih⟩

theorem Interrupted.stops
    (interrupted : Interrupted canGenerate bot botId context orders workflows history error) :
    StopsAtFailure (α := DispatchSummary) botId history (.error error) := by
  induction interrupted with
  | here course =>
      cases course.stops with
      | failed fine failing => exact .failed fine failing
  | later first _ ih => exact ih.append first.stops.fine

/-! ## Whole dispatches -/

theorem fine_opening {answer : Except TransportError Unit} :
    ∀ event ∈ opening botId bot update answer, event.failure? botId = none := by
  unfold opening acknowledgement
  cases update.callbackQuery <;> simp [DispatchEvent.found, DispatchEvent.opened,
    DispatchEvent.acknowledged, DispatchEvent.failure?]

theorem DispatchCourse.stops {outcome : Except DispatchError DispatchSummary}
    (course : DispatchCourse canGenerate orders botId update history outcome) :
    StopsAtFailure botId history outcome := by
  have loading (answer : Except TransportError Unit) (bot : BotRecord)
      (workflows : List StoredWorkflow) :
      ∀ event ∈ opening botId bot update answer ++ [.loaded botId (.ok workflows)],
        event.failure? botId = none :=
    List.forall_mem_append.mpr ⟨fine_opening, List.forall_mem_singleton.mpr rfl⟩
  cases course with
  | botNotLoaded => exact .of_single rfl
  | botNotFound => exact .of_single rfl
  | @closed bot query failure tapped =>
      have found : ∀ event ∈ [DispatchEvent.found botId (.ok (some bot))],
          event.failure? botId = none := List.forall_mem_singleton.mpr rfl
      exact .append (.of_single rfl) found
  | silent _ => exact .finished fine_opening
  | workflowsNotLoaded _ => exact .append (.of_single rfl) fine_opening
  | @interrupted bot answer event workflows history error _ interrupted =>
      rw [List.append_cons]
      exact interrupted.stops.append (loading answer bot workflows)
  | @completed bot answer event workflows history runs time recorded _ completed =>
      have timed : ∀ event ∈ history ++ [.ran (.told time)], event.failure? botId = none :=
        List.forall_mem_append.mpr ⟨completed.fine, List.forall_mem_singleton.mpr rfl⟩
      rw [List.append_cons, List.append_cons history]
      refine .append (.append ?_ timed) (loading answer bot workflows)
      cases recorded with
      | ok done => exact .finished (List.forall_mem_singleton.mpr rfl)
      | error failure => exact .of_single rfl

/-! ## Recording the time -/

theorem unrecorded_opening {answer : Except TransportError Unit} :
    ∀ event ∈ opening botId bot update answer, event.call.isRecording = false := by
  unfold opening acknowledgement
  cases update.callbackQuery <;> simp [DispatchEvent.found, DispatchEvent.opened,
    DispatchEvent.acknowledged, DispatchCall.isRecording]

theorem unrecorded_of_forWorkflow
    (forWorkflow : ∀ event ∈ history, event.call.isForWorkflow = true) :
    ∀ event ∈ history, event.call.isRecording = false := by
  intro event member
  exact (DispatchCall.isForWorkflow_excludes (forWorkflow event member)).1

/-- The events up to the end of the last workflow, in a dispatch in which all workflows are run. -/
inductive RanAll (canGenerate : Bool) (orders : Nat → Nat → VariableOrder) (botId : BotId)
    (update : Update) : InboundEvent → List DispatchEvent → List WorkflowRun → Prop
  | intro {bot : BotRecord} {answer : Except TransportError Unit} {event : InboundEvent}
      {workflows : List StoredWorkflow} {history : List DispatchEvent} {runs : List WorkflowRun}
      (said : InboundEvent.ofUpdate? update = some event)
      (completed : Completed canGenerate bot botId (bot.contextOn event) orders
        (workflows.filter (·.HasText)) history runs) :
      RanAll canGenerate orders botId update event
        (opening botId bot update answer ++ .loaded botId (.ok workflows) :: history) runs

/-- The time is recorded by the last call, once all workflows were run; a dispatch that gets through
an event never leaves it out. -/
inductive RecordsLast (canGenerate : Bool) (orders : Nat → Nat → VariableOrder) (botId : BotId)
    (update : Update) : List DispatchEvent → Except DispatchError DispatchSummary → Prop
  | recorded {event : InboundEvent} {before : List DispatchEvent} {runs : List WorkflowRun}
      {time : Instant} {answer : Except StoreError Unit}
      (all : RanAll canGenerate orders botId update event before runs)
      (once : ∀ event ∈ before, event.call.isRecording = false) :
      RecordsLast canGenerate orders botId update
        (before ++ [.ran (.told time), .recorded botId time answer])
        (match answer with
          | .ok _ => .ok ⟨some event, runs⟩
          | .error failure => .error (.recordLastRun botId failure.message))
  | unrecorded {history : List DispatchEvent} {outcome : Except DispatchError DispatchSummary}
      (never : ∀ event ∈ history, event.call.isRecording = false)
      (incomplete : ∀ event runs, outcome ≠ .ok ⟨some event, runs⟩) :
      RecordsLast canGenerate orders botId update history outcome

theorem DispatchCourse.recordsLast {outcome : Except DispatchError DispatchSummary}
    (course : DispatchCourse canGenerate orders botId update history outcome) :
    RecordsLast canGenerate orders botId update history outcome := by
  cases course with
  | botNotLoaded => exact .unrecorded (List.forall_mem_singleton.mpr rfl) (by simp)
  | botNotFound => exact .unrecorded (List.forall_mem_singleton.mpr rfl) (by simp)
  | closed _ =>
      exact .unrecorded (List.forall_mem_cons.mpr ⟨rfl, List.forall_mem_singleton.mpr rfl⟩)
        (by simp)
  | silent _ => exact .unrecorded unrecorded_opening (by simp)
  | workflowsNotLoaded _ =>
      exact .unrecorded (List.forall_mem_append.mpr
        ⟨unrecorded_opening, List.forall_mem_singleton.mpr rfl⟩) (by simp)
  | interrupted _ interrupted =>
      exact .unrecorded (List.forall_mem_append.mpr ⟨unrecorded_opening, List.forall_mem_cons.mpr
        ⟨rfl, unrecorded_of_forWorkflow interrupted.forWorkflow⟩⟩) (by simp)
  | @completed bot answer event workflows history runs time recorded said completed =>
      have all : RanAll canGenerate orders botId update event
          (opening botId bot update answer ++ .loaded botId (.ok workflows) :: history) runs :=
        .intro said completed
      have once : ∀ event ∈ opening botId bot update answer ++
          .loaded botId (.ok workflows) :: history, event.call.isRecording = false :=
        List.forall_mem_append.mpr ⟨unrecorded_opening, List.forall_mem_cons.mpr
          ⟨rfl, unrecorded_of_forWorkflow completed.forWorkflow⟩⟩
      rw [← List.cons_append, ← List.append_assoc]
      exact .recorded all once

/-! ## Acknowledging -/

theorem unacknowledged_of_forWorkflow
    (forWorkflow : ∀ event ∈ history, event.call.isForWorkflow = true) :
    ∀ event ∈ history, event.call.isAcknowledgement = false := by
  intro event member
  exact (DispatchCall.isForWorkflow_excludes (forWorkflow event member)).2

/-- What comes after the opening of a dispatch does not acknowledge anything. -/
theorem DispatchCourse.exists_opening {outcome : Except DispatchError DispatchSummary}
    (course : DispatchCourse canGenerate orders botId update history outcome) :
    (∃ answer, (∀ bot, answer ≠ .ok (some bot)) ∧ history = [.found botId answer]) ∨
    (∃ bot query failure, update.callbackQuery = some query ∧
      history = [.found botId (.ok (some bot)), .opened bot.token (.error failure)]) ∨
    ∃ bot answer later, history = opening botId bot update answer ++ later ∧
      ∀ event ∈ later, event.call.isAcknowledgement = false := by
  cases course with
  | botNotLoaded => exact .inl ⟨_, by simp, rfl⟩
  | botNotFound => exact .inl ⟨_, by simp, rfl⟩
  | closed tapped => exact .inr (.inl ⟨_, _, _, tapped, rfl⟩)
  | silent _ => exact .inr (.inr ⟨_, _, [], (List.append_nil _).symm, by simp⟩)
  | workflowsNotLoaded _ =>
      exact .inr (.inr ⟨_, _, _, rfl, List.forall_mem_singleton.mpr rfl⟩)
  | interrupted _ interrupted =>
      exact .inr (.inr ⟨_, _, _, rfl, List.forall_mem_cons.mpr
        ⟨rfl, unacknowledged_of_forWorkflow interrupted.forWorkflow⟩⟩)
  | completed _ completed =>
      have timed (time : Instant) (answer : Except StoreError Unit) :
          ∀ event ∈ [DispatchEvent.ran (.told time), .recorded botId time answer],
            event.call.isAcknowledgement = false :=
        List.forall_mem_cons.mpr ⟨rfl, List.forall_mem_singleton.mpr rfl⟩
      exact .inr (.inr ⟨_, _, _, rfl, List.forall_mem_cons.mpr ⟨rfl, List.forall_mem_append.mpr
        ⟨unacknowledged_of_forWorkflow completed.forWorkflow, timed _ _⟩⟩⟩)

/-- The button is acknowledged as soon as there is a way to do so, and only then. -/
inductive AcknowledgesOnce (botId : BotId) (update : Update) : List DispatchEvent → Prop
  | acknowledged {query : CallbackQuery} {bot : BotRecord} {answer : Except TransportError Unit}
      {later : List DispatchEvent} (tapped : update.callbackQuery = some query)
      (once : ∀ event ∈ later, event.call.isAcknowledgement = false) :
      AcknowledgesOnce botId update
        (.found botId (.ok (some bot)) :: .opened bot.token (.ok ()) ::
          .acknowledged query.id answer :: later)
  | unacknowledged {history : List DispatchEvent}
      (never : ∀ event ∈ history, event.call.isAcknowledgement = false)
      (impossible : update.callbackQuery = none ∨ ∀ bot : BotRecord,
        ¬ [.found botId (.ok (some bot)), .opened bot.token (.ok ())] <+: history) :
      AcknowledgesOnce botId update history

theorem DispatchCourse.acknowledgesOnce {outcome : Except DispatchError DispatchSummary}
    (course : DispatchCourse canGenerate orders botId update history outcome) :
    AcknowledgesOnce botId update history := by
  obtain ⟨answer, -, rfl⟩ | ⟨bot, query, failure, tapped, rfl⟩ | ⟨bot, answer, later, rfl, plain⟩ :=
    course.exists_opening
  · refine .unacknowledged (List.forall_mem_singleton.mpr rfl) (.inr fun bot early => ?_)
    have long := early.length_le
    simp at long
  · refine .unacknowledged
      (List.forall_mem_cons.mpr ⟨rfl, List.forall_mem_singleton.mpr rfl⟩) (.inr fun bot early => ?_)
    obtain ⟨rest, same⟩ := early
    cases same
  · cases tapped : update.callbackQuery with
    | none =>
        simp only [opening, acknowledgement, tapped]
        exact .unacknowledged (List.forall_mem_cons.mpr ⟨rfl, plain⟩) (.inl tapped)
    | some query =>
        simp only [opening, acknowledgement, tapped]
        exact .acknowledged tapped plain

/-! ## Acknowledgements that are answered differently -/

/-- The same event, except that an acknowledgement may have another answer. -/
inductive DispatchEvent.Akin : DispatchEvent → DispatchEvent → Prop
  | same (event : DispatchEvent) : Akin event event
  | acknowledged {callbackId : String} {answer other : Except TransportError Unit} :
      Akin (.acknowledged callbackId answer) (.acknowledged callbackId other)

open DispatchEvent (Akin)

theorem Akin.eq {event other : DispatchEvent} (akin : Akin event other)
    (plain : event.call.isAcknowledgement = false) : other = event := by
  cases akin with
  | same => rfl
  | acknowledged => cases plain

theorem eq_of_akin {other : List DispatchEvent} (akin : Forall₂ Akin history other)
    (plain : ∀ event ∈ history, event.call.isAcknowledgement = false) : other = history := by
  induction akin with
  | nil => rfl
  | cons first _ ih =>
      obtain ⟨plainFirst, plainLater⟩ := List.forall_mem_cons.mp plain
      rw [Akin.eq first plainFirst, ih plainLater]

theorem akin_opening {answer : Except TransportError Unit} {later other : List DispatchEvent}
    (akin : Forall₂ Akin (opening botId bot update answer ++ later) other)
    (plain : ∀ event ∈ later, event.call.isAcknowledgement = false) :
    ∃ given, other = opening botId bot update given ++ later := by
  cases tapped : update.callbackQuery with
  | none =>
      simp only [opening, acknowledgement, tapped] at akin ⊢
      exact ⟨answer, eq_of_akin akin (List.forall_mem_cons.mpr ⟨rfl, plain⟩)⟩
  | some query =>
      simp only [opening, acknowledgement, tapped] at akin ⊢
      obtain ⟨_, _, first, akinOpened, rfl⟩ := List.forall₂_cons_left_iff.mp akin
      obtain ⟨_, _, second, akinAnswered, rfl⟩ := List.forall₂_cons_left_iff.mp akinOpened
      obtain ⟨_, _, third, akinLater, rfl⟩ := List.forall₂_cons_left_iff.mp akinAnswered
      rw [Akin.eq first rfl, Akin.eq second rfl, eq_of_akin akinLater plain]
      cases third with
      | same => exact ⟨answer, rfl⟩
      | acknowledged => exact ⟨_, rfl⟩

theorem DispatchCourse.of_akin {outcome : Except DispatchError DispatchSummary}
    {other : List DispatchEvent}
    (course : DispatchCourse canGenerate orders botId update history outcome)
    (akin : Forall₂ Akin history other) :
    DispatchCourse canGenerate orders botId update other outcome := by
  have single {event : DispatchEvent} (plain : event.call.isAcknowledgement = false) :
      ∀ only : DispatchEvent, only ∈ [event] → only.call.isAcknowledgement = false :=
    List.forall_mem_singleton.mpr plain
  cases course with
  | botNotLoaded =>
      rw [eq_of_akin akin (single rfl)]
      exact .botNotLoaded
  | botNotFound =>
      rw [eq_of_akin akin (single rfl)]
      exact .botNotFound
  | closed tapped =>
      rw [eq_of_akin akin (List.forall_mem_cons.mpr ⟨rfl, single rfl⟩)]
      exact .closed tapped
  | silent silent =>
      rw [← List.append_nil (opening ..)] at akin
      obtain ⟨given, rfl⟩ := akin_opening akin (by simp)
      rw [List.append_nil]
      exact .silent silent
  | workflowsNotLoaded said =>
      obtain ⟨given, rfl⟩ := akin_opening akin (single rfl)
      exact .workflowsNotLoaded said
  | interrupted said interrupted =>
      obtain ⟨given, rfl⟩ := akin_opening akin (List.forall_mem_cons.mpr
        ⟨rfl, unacknowledged_of_forWorkflow interrupted.forWorkflow⟩)
      exact .interrupted said interrupted
  | completed said completed =>
      obtain ⟨given, rfl⟩ := akin_opening akin (List.forall_mem_cons.mpr ⟨rfl,
        List.forall_mem_append.mpr ⟨unacknowledged_of_forWorkflow completed.forWorkflow,
          List.forall_mem_cons.mpr ⟨rfl, single rfl⟩⟩⟩)
      exact .completed said completed

/-- The surroundings agree on all calls but acknowledgements, and what they answer does not depend
on how acknowledgements were answered. -/
def AgreeApartFromAcknowledging (surroundings others : Surroundings DispatchCall DispatchCall.Answer) :
    Prop :=
  ∀ past otherPast call, Forall₂ Akin past otherPast → call.isAcknowledgement = false →
    surroundings past call = others otherPast call

theorem akin_replay {surroundings others : Surroundings DispatchCall DispatchCall.Answer}
    {past otherPast : List DispatchEvent}
    (agree : AgreeApartFromAcknowledging surroundings others) (akin : Forall₂ Akin past otherPast)
    (answers : surroundings.Answers past history) :
    Forall₂ Akin history (others.replay otherPast history) := by
  induction history generalizing past otherPast with
  | nil => exact .nil
  | cons event history ih =>
      obtain ⟨call, answer⟩ := event
      obtain ⟨given, answers⟩ := answers
      have first : Akin ⟨call, answer⟩ ⟨call, others otherPast call⟩ := by
        cases plain : call.isAcknowledgement with
        | false =>
            have same : answer = others otherPast call :=
              given.symm.trans (agree past otherPast call akin plain)
            rw [← same]
            exact .same _
        | true =>
            cases call with
            | acknowledge callbackId => exact .acknowledged
            | findBot _ | loadWorkflows _ _ | appendLog _ | recordLastRun _ _ | openTransport _
            | newLogId | run _ => cases plain
      exact .cons first (ih (.cons first akin) answers)

theorem runIn_dispatch_of_agree {surroundings others : Surroundings DispatchCall DispatchCall.Answer}
    (agree : AgreeApartFromAcknowledging surroundings others) :
    let first := (dispatch canGenerate orders botId update).run.runIn surroundings
    let second := (dispatch canGenerate orders botId update).run.runIn others
    second.1 = first.1 ∧ Forall₂ Akin first.2 second.2 := by
  intro first second
  have course := runs_dispatch_iff.mp (Program.runs_runIn surroundings _ :
    Runs (dispatch canGenerate orders botId update).run first.2 first.1)
  have akin : Forall₂ Akin first.2 (others.replay [] first.2) :=
    akin_replay agree .nil (Program.answers_runIn surroundings _)
  have ran : second = (first.1, others.replay [] first.2) := Program.runIn_eq_iff.mpr
    ⟨runs_dispatch_iff.mpr (course.of_akin akin), others.answers_replay [] _⟩
  rw [ran]
  exact ⟨rfl, akin⟩

theorem projections_of_akin {other : List DispatchEvent} (akin : Forall₂ Akin history other) :
    storeCalls other = storeCalls history ∧ messagesOf other = messagesOf history ∧
      appendedLogs other = appendedLogs history := by
  induction akin with
  | nil => exact ⟨rfl, rfl, rfl⟩
  | @cons _ _ first second akin _ ih =>
      obtain ⟨calls, messages, logs⟩ := ih
      cases akin with
      | same =>
          have split (event : DispatchEvent) (rest : List DispatchEvent) :
              event :: rest = [event] ++ rest := rfl
          rw [split _ first, split _ second]
          simp only [storeCalls_append, messagesOf_append, appendedLogs_append, calls, messages,
            logs, and_self]
      | acknowledged => exact ⟨calls, messages, logs⟩

/-! ## Failing calls -/

theorem messagesOf_singleton (call : DispatchCall) (answer given : call.Answer) :
    messagesOf [⟨call, answer⟩] = messagesOf [⟨call, given⟩] := by
  cases call with
  | run call => cases call <;> rfl
  | findBot _ | loadWorkflows _ _ | appendLog _ | recordLastRun _ _ | openTransport _
  | acknowledge _ | newLogId => rfl

theorem appendedLogs_of_failure {event : DispatchEvent} (failing : event.failure? botId ≠ none) :
    appendedLogs [event] = [] := by
  obtain ⟨call, answer⟩ := event
  cases call with
  | appendLog log =>
      cases answer with
      | ok done => exact absurd rfl failing
      | error failure => rfl
  | findBot _ | loadWorkflows _ _ | recordLastRun _ _ | openTransport _ | acknowledge _
  | newLogId | run _ => rfl

/-- What one dispatch has done is the beginning of what the other has done. -/
structure CutShort (history other : List DispatchEvent) : Prop where
  calls : storeCalls history <+: storeCalls other
  messages : messagesOf history <+: messagesOf other
  logs : appendedLogs history <+: appendedLogs other

theorem cutShort_of_failure {before later : List DispatchEvent} {call : DispatchCall}
    {answer given : call.Answer} (failing : DispatchEvent.failure? botId ⟨call, answer⟩ ≠ none) :
    CutShort (before ++ [⟨call, answer⟩]) (before ++ ⟨call, given⟩ :: later) := by
  have split : before ++ ⟨call, given⟩ :: later = before ++ [⟨call, given⟩] ++ later :=
    List.append_cons ..
  rw [split]
  refine ⟨?_, ?_, ?_⟩
  · simp only [storeCalls_append]
    exact List.prefix_append (storeCalls before ++ storeCalls [⟨call, given⟩]) _
  · simp only [messagesOf_append, messagesOf_singleton call answer given]
    exact List.prefix_append ..
  · simp only [appendedLogs_append, appendedLogs_of_failure failing, List.append_nil,
      List.append_assoc]
    exact List.prefix_append ..

/-- A dispatch stops at the first call that fails and names it; what it has done by then is the
beginning of what it would have done if the call had succeeded.  The time is recorded last.  A
button is acknowledged as soon as possible, and how that is answered changes nothing. -/
theorem runIn_dispatch_failures (canGenerate : Bool) (orders : Nat → Nat → VariableOrder)
    (botId : BotId) (update : Update)
    (surroundings : Surroundings DispatchCall DispatchCall.Answer) :
    let program := (dispatch canGenerate orders botId update).run
    let outcome := (program.runIn surroundings).1
    let history := (program.runIn surroundings).2
    StopsAtFailure botId history outcome ∧
    (∀ before call answer given others, history = before ++ [⟨call, answer⟩] →
      DispatchEvent.failure? botId ⟨call, answer⟩ ≠ none →
      DispatchEvent.failure? botId ⟨call, given⟩ = none →
      others.Answers [] (before ++ [⟨call, given⟩]) →
      (∃ later, (program.runIn others).2 = before ++ ⟨call, given⟩ :: later) ∧
        CutShort history (program.runIn others).2) ∧
    RecordsLast canGenerate orders botId update history outcome ∧
    AcknowledgesOnce botId update history ∧
    ∀ others, AgreeApartFromAcknowledging surroundings others →
      (program.runIn others).1 = outcome ∧
      storeCalls (program.runIn others).2 = storeCalls history ∧
      messagesOf (program.runIn others).2 = messagesOf history ∧
      appendedLogs (program.runIn others).2 = appendedLogs history := by
  intro program outcome history
  have runs : Runs program history outcome := Program.runs_runIn surroundings program
  have course := runs_dispatch_iff.mp runs
  refine ⟨course.stops, ?_, course.recordsLast, course.acknowledgesOnce, ?_⟩
  · intro before call answer given others cut failing _ answers
    rw [cut] at runs ⊢
    obtain ⟨later, continued⟩ := Program.exists_runIn_eq_append runs answers
    rw [continued]
    exact ⟨⟨later, rfl⟩, cutShort_of_failure failing⟩
  · intro others agree
    obtain ⟨same, akin⟩ := runIn_dispatch_of_agree agree
    exact ⟨same, projections_of_akin akin⟩

/-- Surroundings with one bot, where the loading of its workflows is answered as given. -/
def loadingSurroundings (bot : BotRecord) (answer : Except StoreError (List StoredWorkflow)) :
    Surroundings DispatchCall DispatchCall.Answer
  | _, .findBot _ => Except.ok (some bot)
  | _, .loadWorkflows _ _ => answer
  | past, call => workingPlatform past call

theorem runIn_dispatch_failures_unloaded :
    let bot : BotRecord := { id := .ofNat 1, name := "shop", token := "123:abc" }
    let update : Update :=
      ⟨1, none, some ⟨"tap", ⟨7, false, "Ada"⟩, some ⟨10, 555, none, none⟩, some "/start"⟩⟩
    let orders : Nat → Nat → VariableOrder := fun _ _ => .textFirst
    let program := (dispatch false orders bot.id update).run
    let failing := program.runIn (loadingSurroundings bot (.error (.unavailable "closed")))
    let working := program.runIn (loadingSurroundings bot (.ok []))
    failing.1 = .error (.loadWorkflows bot.id "store unavailable: closed") ∧
      storeCalls failing.2 = [.findBot bot.id, .loadWorkflows bot.id true] ∧
      working.1.toOption.isSome = true ∧ CutShort failing.2 working.2 := by
  intro bot update orders program failing working
  let before : List DispatchEvent := [.found bot.id (.ok (some bot)), .opened bot.token (.ok ()),
    .acknowledged "tap" (.ok ())]
  let unloaded : Except StoreError (List StoredWorkflow) := .error (.unavailable "closed")
  let loaded : Except StoreError (List StoredWorkflow) := .ok []
  have answers : (loadingSurroundings bot loaded).Answers []
      (before ++ [⟨.loadWorkflows bot.id true, loaded⟩]) := ⟨rfl, rfl, rfl, rfl, trivial⟩
  have cut := (runIn_dispatch_failures false orders bot.id update
    (loadingSurroundings bot unloaded)).2.1 before (.loadWorkflows bot.id true) unloaded loaded
    (loadingSurroundings bot loaded) rfl (Option.some_ne_none _) rfl answers
  exact ⟨rfl, rfl, rfl, cut.2⟩

end Chatflow
