import Chatflow.Proofs.Dispatch.Course

/-!
# The stages of a dispatch

A dispatch finds the bot, acknowledges a tapped button, loads the workflows, runs them one after
the other and records the time.  Each stage can be the last one; the courses of a dispatch say what
was done by then, whatever the store and the platform answer.
-/

namespace Chatflow

open Program (Runs runs_pure_iff)

variable {canGenerate : Bool} {orders : Nat → Nat → VariableOrder} {bot : BotRecord}
  {botId : BotId} {context : RunContext} {update : Update} {history : List DispatchEvent}

/-! ## Workflows one after the other -/

/-- All workflows are run in turn, and the runs that matched are listed. -/
inductive Completed (canGenerate : Bool) (bot : BotRecord) (botId : BotId) (context : RunContext) :
    (Nat → Nat → VariableOrder) → List StoredWorkflow → List DispatchEvent → List WorkflowRun → Prop
  | nil {orders : Nat → Nat → VariableOrder} :
      Completed canGenerate bot botId context orders [] [] []
  | cons {orders : Nat → Nat → VariableOrder} {workflow : StoredWorkflow}
      {workflows : List StoredWorkflow} {calls history : List DispatchEvent}
      {found : Option WorkflowRun} {runs : List WorkflowRun}
      (first : WorkflowCourse canGenerate (orders 0) bot botId context workflow calls (.ok found))
      (later : Completed canGenerate bot botId context (fun place => orders (place + 1)) workflows
        history runs) :
      Completed canGenerate bot botId context orders (workflow :: workflows) (calls ++ history)
        (found.toList ++ runs)

/-- A workflow cannot be run to its end, those before it having been run. -/
inductive Interrupted (canGenerate : Bool) (bot : BotRecord) (botId : BotId)
    (context : RunContext) :
    (Nat → Nat → VariableOrder) → List StoredWorkflow → List DispatchEvent → DispatchError → Prop
  | here {orders : Nat → Nat → VariableOrder} {workflow : StoredWorkflow}
      {workflows : List StoredWorkflow} {calls : List DispatchEvent} {error : DispatchError}
      (course : WorkflowCourse canGenerate (orders 0) bot botId context workflow calls
        (.error error)) :
      Interrupted canGenerate bot botId context orders (workflow :: workflows) calls error
  | later {orders : Nat → Nat → VariableOrder} {workflow : StoredWorkflow}
      {workflows : List StoredWorkflow} {calls history : List DispatchEvent}
      {found : Option WorkflowRun} {error : DispatchError}
      (first : WorkflowCourse canGenerate (orders 0) bot botId context workflow calls (.ok found))
      (later : Interrupted canGenerate bot botId context (fun place => orders (place + 1)) workflows
        history error) :
      Interrupted canGenerate bot botId context orders (workflow :: workflows) (calls ++ history)
        error

theorem runs_runWorkflows_iff {workflows : List StoredWorkflow}
    {outcome : Except DispatchError (List WorkflowRun)} :
    Runs (runWorkflows canGenerate orders bot botId context workflows).run history outcome ↔
      (∃ runs, outcome = .ok runs ∧
        Completed canGenerate bot botId context orders workflows history runs) ∨
      ∃ error, outcome = .error error ∧
        Interrupted canGenerate bot botId context orders workflows history error := by
  induction workflows generalizing orders history outcome with
  | nil =>
      rw [runWorkflows, runs_attempt_pure_iff]
      constructor
      · rintro ⟨rfl, rfl⟩
        exact .inl ⟨[], rfl, .nil⟩
      · rintro (⟨runs, rfl, completed⟩ | ⟨error, -, interrupted⟩)
        · cases completed
          exact ⟨rfl, rfl⟩
        · cases interrupted
  | cons workflow workflows ih =>
      rw [runWorkflows]
      simp only [runs_attempt_bind_iff, runs_runWorkflow_iff, ih, runs_attempt_pure_iff]
      constructor
      · rintro (⟨error, rfl, course⟩ | ⟨found, calls, rest, rfl, course, ended⟩)
        · exact .inr ⟨error, rfl, .here course⟩
        · obtain ⟨error, rfl, later⟩ | ⟨runs, _, _, rfl, later, rfl, rfl⟩ := ended
          · obtain ⟨_, listed, -⟩ | ⟨_, same, interrupted⟩ := later
            · cases listed
            · cases same
              exact .inr ⟨error, rfl, .later course interrupted⟩
          · obtain ⟨_, same, completed⟩ | ⟨_, failed, -⟩ := later
            · cases same
              rw [List.append_nil]
              exact .inl ⟨_, rfl, .cons course completed⟩
            · cases failed
      · rintro (⟨_, rfl, completed⟩ | ⟨error, rfl, interrupted⟩)
        · cases completed with
          | cons first later =>
              exact .inr ⟨_, _, _, rfl, first, .inr
                ⟨_, _, [], (List.append_nil _).symm, .inl ⟨_, rfl, later⟩, rfl, rfl⟩⟩
        · cases interrupted with
          | here course => exact .inl ⟨error, rfl, course⟩
          | later first later =>
              exact .inr ⟨_, _, _, rfl, first, .inl ⟨error, rfl, .inr ⟨error, rfl, later⟩⟩⟩

/-! ## Whole dispatches -/

theorem runs_acknowledgeCallback_iff {outcome : Except DispatchError Unit} :
    Runs (acknowledgeCallback bot botId update).run history outcome ↔
      (∃ answer, history = acknowledgement bot update answer ∧ outcome = .ok ()) ∨
      ∃ query failure, update.callbackQuery = some query ∧
        history = [.opened bot.token (.error failure)] ∧
        outcome = .error (.transport botId failure.message) := by
  cases tapped : update.callbackQuery with
  | none =>
      simp only [acknowledgeCallback, acknowledgement, tapped, runs_attempt_pure_iff]
      constructor
      · rintro ⟨rfl, rfl⟩
        exact .inl ⟨.ok (), rfl, rfl⟩
      · rintro (⟨_, rfl, rfl⟩ | ⟨_, _, absent, -⟩)
        · exact ⟨rfl, rfl⟩
        · cases absent
  | some query =>
      simp only [acknowledgeCallback, acknowledgement, tapped, runs_openTransport_bind_iff]
      constructor
      · rintro (⟨failure, rfl, rfl⟩ | ⟨_, rfl, runs⟩)
        · exact .inr ⟨query, failure, rfl, rfl, rfl⟩
        · obtain ⟨answer, _, _, rfl, acknowledged, ended⟩ := runs_attempt_lift_bind_iff.mp runs
          obtain rfl := runs_acknowledge_iff.mp acknowledged
          obtain ⟨rfl, rfl⟩ := runs_attempt_pure_iff.mp ended
          exact .inl ⟨answer, rfl, rfl⟩
      · rintro (⟨answer, rfl, rfl⟩ | ⟨_, failure, -, rfl, rfl⟩)
        · exact .inr ⟨_, rfl, runs_attempt_lift_bind_iff.mpr ⟨answer, _, [], rfl,
            runs_acknowledge_iff.mpr rfl, runs_attempt_pure_iff.mpr ⟨rfl, rfl⟩⟩⟩
        · exact .inl ⟨failure, rfl, rfl⟩

def opening (botId : BotId) (bot : BotRecord) (update : Update)
    (answer : Except TransportError Unit) : List DispatchEvent :=
  .found botId (.ok (some bot)) :: acknowledgement bot update answer

/-- The ways in which a dispatch can go, by the stage at which it ends. -/
inductive DispatchCourse (canGenerate : Bool) (orders : Nat → Nat → VariableOrder)
    (botId : BotId) (update : Update) :
    List DispatchEvent → Except DispatchError DispatchSummary → Prop
  | botNotLoaded {failure : StoreError} :
      DispatchCourse canGenerate orders botId update [.found botId (.error failure)]
        (.error (.loadBot botId failure.message))
  | botNotFound :
      DispatchCourse canGenerate orders botId update [.found botId (.ok none)]
        (.error (.botNotFound botId))
  | closed {bot : BotRecord} {query : CallbackQuery} {failure : TransportError}
      (tapped : update.callbackQuery = some query) :
      DispatchCourse canGenerate orders botId update
        [.found botId (.ok (some bot)), .opened bot.token (.error failure)]
        (.error (.transport botId failure.message))
  | silent {bot : BotRecord} {answer : Except TransportError Unit}
      (silent : InboundEvent.ofUpdate? update = none) :
      DispatchCourse canGenerate orders botId update (opening botId bot update answer) (.ok {})
  | workflowsNotLoaded {bot : BotRecord} {answer : Except TransportError Unit}
      {event : InboundEvent} {failure : StoreError}
      (said : InboundEvent.ofUpdate? update = some event) :
      DispatchCourse canGenerate orders botId update
        (opening botId bot update answer ++ [.loaded botId (.error failure)])
        (.error (.loadWorkflows botId failure.message))
  | interrupted {bot : BotRecord} {answer : Except TransportError Unit} {event : InboundEvent}
      {workflows : List StoredWorkflow} {history : List DispatchEvent} {error : DispatchError}
      (said : InboundEvent.ofUpdate? update = some event)
      (interrupted : Interrupted canGenerate bot botId (bot.contextOn event) orders
        (workflows.filter (·.HasText)) history error) :
      DispatchCourse canGenerate orders botId update
        (opening botId bot update answer ++ .loaded botId (.ok workflows) :: history)
        (.error error)
  | completed {bot : BotRecord} {answer : Except TransportError Unit} {event : InboundEvent}
      {workflows : List StoredWorkflow} {history : List DispatchEvent} {runs : List WorkflowRun}
      {time : Instant} {recorded : Except StoreError Unit}
      (said : InboundEvent.ofUpdate? update = some event)
      (completed : Completed canGenerate bot botId (bot.contextOn event) orders
        (workflows.filter (·.HasText)) history runs) :
      DispatchCourse canGenerate orders botId update
        (opening botId bot update answer ++ .loaded botId (.ok workflows) ::
          (history ++ [.ran (.told time), .recorded botId time recorded]))
        (match recorded with
          | .ok _ => .ok ⟨some event, runs⟩
          | .error failure => .error (.recordLastRun botId failure.message))

theorem runs_dispatchEvent_iff {event : InboundEvent}
    {outcome : Except DispatchError DispatchSummary} :
    Runs (dispatchEvent canGenerate orders bot botId event).run history outcome ↔
      (∃ failure, history = [.loaded botId (.error failure)] ∧
        outcome = .error (.loadWorkflows botId failure.message)) ∨
      (∃ workflows later error, history = .loaded botId (.ok workflows) :: later ∧
        Interrupted canGenerate bot botId (bot.contextOn event) orders
          (workflows.filter (·.HasText)) later error ∧ outcome = .error error) ∨
      ∃ workflows later runs time recorded,
        history = .loaded botId (.ok workflows) ::
          (later ++ [.ran (.told time), .recorded botId time recorded]) ∧
        Completed canGenerate bot botId (bot.contextOn event) orders
          (workflows.filter (·.HasText)) later runs ∧
        outcome = match recorded with
          | .ok _ => .ok ⟨some event, runs⟩
          | .error failure => .error (.recordLastRun botId failure.message) := by
  rw [dispatchEvent, runs_require_bind_iff]
  simp only [runs_loadWorkflows_iff, StoredWorkflow.hasDefinition_eq_decide,
    BotRecord.ofEvent_eq_contextOn]
  constructor
  · rintro (⟨failure, rfl, rfl⟩ | ⟨workflows, _, rest, rfl, rfl, runs⟩)
    · exact .inl ⟨failure, rfl, rfl⟩
    · obtain ⟨error, rfl, broken⟩ | ⟨listed, later, _, rfl, running, timing⟩ :=
        runs_attempt_bind_iff.mp runs
      · obtain ⟨_, same, -⟩ | ⟨_, same, interrupted⟩ := runs_runWorkflows_iff.mp broken
        · cases same
        · cases same
          exact .inr (.inl ⟨workflows, rest, error, rfl, interrupted, rfl⟩)
      · obtain ⟨_, same, completed⟩ | ⟨_, same, -⟩ := runs_runWorkflows_iff.mp running
        · cases same
          obtain ⟨time, _, _, rfl, told, recording⟩ := runs_attempt_lift_bind_iff.mp timing
          obtain rfl := runs_now_iff.mp told
          obtain ⟨failure, recorded, rfl⟩ | ⟨done, _, _, rfl, recorded, ended⟩ :=
            runs_require_bind_iff.mp recording
          · obtain rfl := runs_recordLastRun_iff.mp recorded
            exact .inr (.inr ⟨workflows, later, listed, time, .error failure, rfl, completed, rfl⟩)
          · obtain rfl := runs_recordLastRun_iff.mp recorded
            obtain ⟨rfl, rfl⟩ := runs_attempt_pure_iff.mp ended
            exact .inr (.inr ⟨workflows, later, listed, time, .ok done, rfl, completed, rfl⟩)
        · cases same
  · rintro (⟨failure, rfl, rfl⟩ | ⟨workflows, later, error, rfl, interrupted, rfl⟩ |
      ⟨workflows, later, runs, time, recorded, rfl, completed, rfl⟩)
    · exact .inl ⟨failure, rfl, rfl⟩
    · exact .inr ⟨workflows, _, later, rfl, rfl, runs_attempt_bind_iff.mpr (.inl
        ⟨error, rfl, runs_runWorkflows_iff.mpr (.inr ⟨error, rfl, interrupted⟩)⟩)⟩
    · refine .inr ⟨workflows, _, _, rfl, rfl, runs_attempt_bind_iff.mpr (.inr
        ⟨runs, later, _, rfl, runs_runWorkflows_iff.mpr (.inl ⟨runs, rfl, completed⟩), ?_⟩)⟩
      refine runs_attempt_lift_bind_iff.mpr ⟨time, [_], [_], rfl, runs_now_iff.mpr rfl, ?_⟩
      refine runs_require_bind_iff.mpr ?_
      cases recorded with
      | error failure => exact .inl ⟨failure, runs_recordLastRun_iff.mpr rfl, rfl⟩
      | ok done =>
          exact .inr ⟨done, _, [], rfl, runs_recordLastRun_iff.mpr rfl,
            runs_attempt_pure_iff.mpr ⟨rfl, rfl⟩⟩

theorem runs_dispatch_opening {answer : Except TransportError Unit}
    {outcome : Except DispatchError DispatchSummary}
    (later : Runs (match InboundEvent.ofUpdate? update with
      | none => (pure {} : DispatchAttempt DispatchSummary)
      | some event => dispatchEvent canGenerate orders bot botId event).run history outcome) :
    Runs (dispatch canGenerate orders botId update).run
      (opening botId bot update answer ++ history) outcome := by
  have found : Runs (DispatchProgram.findBot botId)
      [DispatchEvent.found botId (.ok (some bot))] (.ok (some bot)) := runs_findBot_iff.mpr rfl
  have acknowledged : Runs (acknowledgeCallback bot botId update).run
      (acknowledgement bot update answer) (.ok ()) :=
    runs_acknowledgeCallback_iff.mpr (.inl ⟨answer, rfl, rfl⟩)
  refine runs_require_bind_iff.mpr (.inr ⟨some bot, [_], _, rfl, found, ?_⟩)
  exact runs_attempt_bind_iff.mpr (.inr ⟨(), _, _, rfl, acknowledged, later⟩)

theorem runs_dispatch_iff {outcome : Except DispatchError DispatchSummary} :
    Runs (dispatch canGenerate orders botId update).run history outcome ↔
      DispatchCourse canGenerate orders botId update history outcome := by
  constructor
  · intro runs
    obtain ⟨failure, found, rfl⟩ | ⟨answer, _, rest, rfl, found, acting⟩ :=
      runs_require_bind_iff.mp runs
    · obtain rfl := runs_findBot_iff.mp found
      exact .botNotLoaded
    · obtain rfl := runs_findBot_iff.mp found
      cases answer with
      | none =>
          obtain ⟨rfl, rfl⟩ := runs_pure_iff.mp acting
          exact .botNotFound
      | some bot =>
          obtain ⟨error, rfl, closed⟩ | ⟨_, _, later, rfl, acknowledged, going⟩ :=
            runs_attempt_bind_iff.mp acting
          · obtain ⟨_, -, same⟩ | ⟨query, failure, tapped, rfl, same⟩ :=
              runs_acknowledgeCallback_iff.mp closed
            · cases same
            · cases same
              exact .closed tapped
          · obtain ⟨answer, rfl, -⟩ | ⟨_, _, -, -, same⟩ :=
              runs_acknowledgeCallback_iff.mp acknowledged
            · cases said : InboundEvent.ofUpdate? update with
              | none =>
                  rw [said] at going
                  obtain ⟨rfl, rfl⟩ := runs_attempt_pure_iff.mp going
                  rw [List.append_nil]
                  exact .silent said
              | some event =>
                  rw [said] at going
                  obtain ⟨failure, rfl, rfl⟩ | ⟨workflows, _, error, rfl, interrupted, rfl⟩ |
                    ⟨workflows, _, listed, time, recorded, rfl, completed, rfl⟩ :=
                    runs_dispatchEvent_iff.mp going
                  · exact .workflowsNotLoaded said
                  · exact .interrupted said interrupted
                  · exact .completed said completed
            · cases same
  · intro course
    have found (answer : Except StoreError (Option BotRecord)) :
        Runs (DispatchProgram.findBot botId) [DispatchEvent.found botId answer] answer :=
      runs_findBot_iff.mpr rfl
    cases course with
    | @botNotLoaded failure => exact runs_require_bind_iff.mpr (.inl ⟨failure, found _, rfl⟩)
    | botNotFound =>
        exact runs_require_bind_iff.mpr (.inr
          ⟨none, _, [], rfl, found _, runs_pure_iff.mpr ⟨rfl, rfl⟩⟩)
    | @closed bot query failure tapped =>
        refine runs_require_bind_iff.mpr (.inr ⟨some bot, _, [_], rfl, found _,
          runs_attempt_bind_iff.mpr (.inl ⟨_, rfl, ?_⟩)⟩)
        exact runs_acknowledgeCallback_iff.mpr (.inr ⟨query, failure, tapped, rfl, rfl⟩)
    | @silent bot answer silent =>
        rw [← List.append_nil (opening botId bot update answer)]
        refine runs_dispatch_opening ?_
        rw [silent]
        exact runs_attempt_pure_iff.mpr ⟨rfl, rfl⟩
    | @workflowsNotLoaded bot answer event failure said =>
        refine runs_dispatch_opening ?_
        rw [said]
        exact runs_dispatchEvent_iff.mpr (.inl ⟨failure, rfl, rfl⟩)
    | @interrupted bot answer event workflows history error said interrupted =>
        refine runs_dispatch_opening ?_
        rw [said]
        exact runs_dispatchEvent_iff.mpr (.inr (.inl ⟨workflows, _, _, rfl, interrupted, rfl⟩))
    | @completed bot answer event workflows history runs time recorded said completed =>
        refine runs_dispatch_opening ?_
        rw [said]
        exact runs_dispatchEvent_iff.mpr (.inr (.inr
          ⟨workflows, _, runs, time, recorded, rfl, completed, rfl⟩))

end Chatflow
