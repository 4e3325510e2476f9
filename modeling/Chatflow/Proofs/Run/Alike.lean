import Chatflow.Proofs.Run.Course
import Chatflow.Proofs.Walk.Reference
import Mathlib.Data.List.Forall2

/-!
# Runs that differ in receipts and times only

A run does not look at the receipts that it gets, and the clock only shows in the times of its
result.  So a run goes the same way when other receipts and other times are given to it.
-/

namespace Chatflow

open List (Forall₂)
open Program (Runs runs_pure_iff)

/-! ## Events that a run cannot tell apart -/

namespace RunEvent

/-- The same call, with answers that are the same up to times and receipts. -/
inductive Alike : RunEvent → RunEvent → Prop
  | told {time other : Instant} : Alike (told time) (told other)
  | sent {message : OutgoingMessage} {receipt other : Receipt} :
      Alike (sent message (.ok receipt)) (sent message (.ok other))
  | generated {request : GenerationRequest} {answer : Except GenerationError String} :
      Alike (generated request answer) (generated request answer)

theorem Alike.of_told {time : Instant} {event : RunEvent} (alike : Alike (.told time) event) :
    ∃ other, event = .told other := by
  cases alike with
  | told => exact ⟨_, rfl⟩

theorem Alike.of_sent {message : OutgoingMessage} {answer : Except TransportError Receipt}
    {event : RunEvent} (alike : Alike (.sent message answer) event) :
    (∃ receipt, answer = .ok receipt) ∧ ∃ receipt, event = .sent message (.ok receipt) := by
  cases alike with
  | sent => exact ⟨⟨_, rfl⟩, _, rfl⟩

theorem Alike.of_generated {request : GenerationRequest} {answer : Except GenerationError String}
    {event : RunEvent} (alike : Alike (.generated request answer) event) :
    event = .generated request answer := by
  cases alike with
  | generated => rfl

theorem Alike.message?_eq {event other : RunEvent} (alike : Alike event other) :
    event.message? = other.message? := by
  cases alike <;> rfl

theorem Alike.delivered?_eq {event other : RunEvent} (alike : Alike event other) :
    event.delivered? = other.delivered? := by
  cases alike <;> rfl

theorem Alike.request?_eq {event other : RunEvent} (alike : Alike event other) :
    event.request? = other.request? := by
  cases alike <;> rfl

end RunEvent

open RunEvent (Alike)

theorem filterMap_eq_of_forall₂ {α β γ : Type} {related : α → β → Prop} {project : α → Option γ}
    {image : β → Option γ} {items : List α} {others : List β}
    (pairs : Forall₂ related items others) (same : ∀ a b, related a b → project a = image b) :
    items.filterMap project = others.filterMap image := by
  induction pairs with
  | nil => rfl
  | cons first _ ih => rw [List.filterMap_cons, List.filterMap_cons, same _ _ first, ih]

theorem exists_append_of_forall₂_append {α β : Type} {related : α → β → Prop}
    {first second : List α} {whole : List β} (pairs : Forall₂ related (first ++ second) whole) :
    ∃ front back, whole = front ++ back ∧ Forall₂ related first front ∧
      Forall₂ related second back := by
  have flipped := pairs.flip
  have fronts := (List.forall₂_take_append whole first second flipped).flip
  have backs := (List.forall₂_drop_append whole first second flipped).flip
  exact ⟨_, _, (List.take_append_drop first.length whole).symm, fronts, backs⟩

variable {canGenerate : Bool} {order : VariableOrder} {orders : Nat → VariableOrder}
  {context : RunContext} {visit : Visit} {graph : Graph} {made left : Nat} {node : Node}
  {progress : Progress WalkEnd} {history other : List RunEvent}

/-! ## Receipts and times do not matter -/

theorem Visit.Allowed.of_alike (allowed : visit.Allowed canGenerate order context)
    (alike : Forall₂ Alike visit.events other) :
    Visit.Allowed canGenerate order context { visit with events := other } := by
  cases allowed with
  | passed idle =>
      cases alike
      exact .passed idle
  | unsupported kind =>
      cases alike
      exact .unsupported kind
  | noGenerator kind cannot =>
      cases alike
      exact .noGenerator kind cannot
  | noKey kind can keyless =>
      cases alike
      exact .noKey kind can keyless
  | sent kind =>
      obtain ⟨event, _, first, rest, rfl⟩ := List.forall₂_cons_left_iff.mp alike
      cases rest
      obtain ⟨-, receipt, rfl⟩ := first.of_sent
      exact .sent kind
  | notSent kind =>
      obtain ⟨event, _, first, rest, rfl⟩ := List.forall₂_cons_left_iff.mp alike
      obtain ⟨⟨receipt, accepted⟩, -⟩ := first.of_sent
      cases accepted
  | notGenerated kind can keyed =>
      obtain ⟨event, _, first, rest, rfl⟩ := List.forall₂_cons_left_iff.mp alike
      cases rest
      cases first.of_generated
      exact .notGenerated kind can keyed
  | answered kind can keyed =>
      obtain ⟨event, _, first, rest, rfl⟩ := List.forall₂_cons_left_iff.mp alike
      obtain ⟨event, _, second, done, rfl⟩ := List.forall₂_cons_left_iff.mp rest
      cases done
      cases first.of_generated
      obtain ⟨-, receipt, rfl⟩ := second.of_sent
      exact .answered kind can keyed
  | notAnswered kind can keyed =>
      obtain ⟨event, _, first, rest, rfl⟩ := List.forall₂_cons_left_iff.mp alike
      obtain ⟨event, _, second, done, rfl⟩ := List.forall₂_cons_left_iff.mp rest
      obtain ⟨⟨receipt, accepted⟩, -⟩ := second.of_sent
      cases accepted

theorem runs_walkFrom_of_alike
    (runs : Runs (walkFrom graph canGenerate orders context left made node) history progress)
    (alike : Forall₂ Alike history other) :
    Runs (walkFrom graph canGenerate orders context left made node) other progress := by
  induction left generalizing made node history other progress with
  | zero =>
      obtain ⟨rfl, rfl⟩ := runs_pure_iff.mp runs
      cases alike
      exact runs
  | succ left ih =>
      rw [runs_walkFrom_succ_iff] at runs ⊢
      rcases runs with ⟨ending, ends, rfl, rfl⟩ |
        ⟨visit, failure, next, allowed, failed, rfl, rfl⟩ |
        ⟨visit, rest, after, next, allowed, succeeded, later, rfl, rfl⟩
      · cases alike
        exact .inl ⟨ending, ends, rfl, rfl⟩
      · exact .inr (.inl ⟨{ visit with events := other }, failure, next, allowed.of_alike alike,
          failed, rfl, rfl⟩)
      · obtain ⟨front, back, rfl, fronts, backs⟩ := exists_append_of_forall₂_append alike
        exact .inr (.inr ⟨{ visit with events := front }, back, after, next,
          allowed.of_alike fronts, succeeded, ih later backs, rfl, rfl⟩)

def RunResult.untimed (result : RunResult) : RunResult :=
  { result with startedAt := none, finishedAt := none }

variable {definition : Option String} {workflowId : Option WorkflowId} {result : RunResult}

theorem RunCourse.of_alike
    (course : RunCourse definition canGenerate orders workflowId context history result)
    (alike : Forall₂ Alike history other) :
    ∃ result', RunCourse definition canGenerate orders workflowId context other result' ∧
      result'.untimed = result.untimed := by
  cases course with
  | unreadable unread =>
      obtain ⟨event, _, first, rest, rfl⟩ := List.forall₂_cons_left_iff.mp alike
      cases rest
      obtain ⟨time, rfl⟩ := first.of_told
      exact ⟨_, .unreadable unread, rfl⟩
  | unmatched read unselected =>
      obtain ⟨event, _, first, rest, rfl⟩ := List.forall₂_cons_left_iff.mp alike
      cases rest
      obtain ⟨time, rfl⟩ := first.of_told
      exact ⟨_, .unmatched read unselected, rfl⟩
  | walked read selected runs =>
      obtain ⟨event, _, first, rest, rfl⟩ := List.forall₂_cons_left_iff.mp alike
      obtain ⟨time, rfl⟩ := first.of_told
      obtain ⟨walked, back, rfl, fronts, backs⟩ := exists_append_of_forall₂_append rest
      obtain ⟨event, _, last, none, rfl⟩ := List.forall₂_cons_left_iff.mp backs
      cases none
      obtain ⟨ended, rfl⟩ := last.of_told
      exact ⟨_, .walked read selected (runs_walkFrom_of_alike runs fronts), rfl⟩

end Chatflow
