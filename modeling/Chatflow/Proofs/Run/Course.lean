import Chatflow.Proofs.Run.Event
import Chatflow.Run

/-!
# The course of a run

A run looks at the clock and then either has no definition, or finds no trigger, or walks and looks
at the clock again.
-/

namespace Chatflow

open Program (Runs runs_bind_iff runs_pure_iff)

/-- The ways in which a run can go, with the calls on its way and its result. -/
inductive RunCourse (definition : Option String) (canGenerate : Bool) (orders : Nat → VariableOrder)
    (workflowId : Option WorkflowId) (context : RunContext) : List RunEvent → RunResult → Prop
  | unreadable {startedAt : Instant} {failure : DefinitionError}
      (unread : Definition.parse definition = .error failure) :
      RunCourse definition canGenerate orders workflowId context [.told startedAt]
        (.ofDefinitionError failure)
  | unmatched {startedAt : Instant} {parsed : Definition}
      (read : Definition.parse definition = .ok parsed)
      (unselected : (Graph.ofDefinition parsed).select context = none) :
      RunCourse definition canGenerate orders workflowId context [.told startedAt] .noMatch
  | walked {startedAt finishedAt : Instant} {parsed : Definition} {trigger : Node}
      {walkHistory : List RunEvent} {progress : Progress WalkEnd}
      (read : Definition.parse definition = .ok parsed)
      (selected : (Graph.ofDefinition parsed).select context = some trigger)
      (runs : Runs (walk (.ofDefinition parsed) canGenerate orders context trigger) walkHistory
        progress) :
      RunCourse definition canGenerate orders workflowId context
        (.told startedAt :: walkHistory ++ [.told finishedAt])
        (((RunResult.ofWalk trigger progress).withWorkflowId workflowId).withTiming
          startedAt finishedAt)

theorem runs_run_iff {definition : Option String} {canGenerate : Bool}
    {orders : Nat → VariableOrder} {workflowId : Option WorkflowId} {context : RunContext}
    {history : List RunEvent} {result : RunResult} :
    Runs (run definition canGenerate orders workflowId context) history result ↔
      RunCourse definition canGenerate orders workflowId context history result := by
  rw [run, runs_now_bind_iff]
  constructor
  · rintro ⟨startedAt, rest, rfl, runs⟩
    cases read : Definition.parse definition with
    | error failure =>
        simp only [read] at runs
        obtain ⟨rfl, rfl⟩ := runs_pure_iff.mp runs
        exact .unreadable read
    | ok parsed =>
        simp only [read, runGraph] at runs
        cases selected : (Graph.ofDefinition parsed).select context with
        | none =>
            simp only [selected] at runs
            obtain ⟨rfl, rfl⟩ := runs_pure_iff.mp runs
            exact .unmatched read selected
        | some trigger =>
            simp only [selected] at runs
            obtain ⟨walkHistory, progress, last, rfl, walked, ended⟩ := runs_bind_iff.mp runs
            obtain ⟨finishedAt, rest, rfl, closed⟩ := runs_now_bind_iff.mp ended
            obtain ⟨rfl, rfl⟩ := runs_pure_iff.mp closed
            exact .walked read selected walked
  · intro course
    cases course with
    | unreadable unread =>
        refine ⟨_, [], rfl, ?_⟩
        simp only [unread]
        exact runs_pure_iff.mpr ⟨rfl, rfl⟩
    | unmatched read unselected =>
        refine ⟨_, [], rfl, ?_⟩
        simp only [read, runGraph, unselected]
        exact runs_pure_iff.mpr ⟨rfl, rfl⟩
    | walked read selected runs =>
        refine ⟨_, _, rfl, ?_⟩
        simp only [read, runGraph, selected]
        refine runs_bind_iff.mpr ⟨_, _, _, rfl, runs, ?_⟩
        exact runs_now_bind_iff.mpr ⟨_, [], rfl, runs_pure_iff.mpr ⟨rfl, rfl⟩⟩

theorem RunResult.steps_ofWalk (trigger : Node) (progress : Progress WalkEnd) :
    (RunResult.ofWalk trigger progress).steps =
      ("Triggered by: " ++ triggerName trigger) :: progress.steps ++
        match progress.outcome with
        | .ok _ => []
        | .error failure => ["Error: " ++ failure.message] := by
  rw [ofWalk]
  cases progress.outcome with
  | ok ending => exact (List.append_nil _).symm
  | error failure => rfl

end Chatflow
