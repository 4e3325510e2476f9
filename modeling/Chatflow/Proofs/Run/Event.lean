import Chatflow.Proofs.Program.History
import Chatflow.Service

/-!
# Events of runs

The calls that a run makes with the answers to them, and what a list of them says of the messages
that were sent and the texts that were asked for.
-/

namespace Chatflow

open Program (Event Runs runs_call_iff)

abbrev RunEvent := Event RunCall RunCall.Answer

namespace RunEvent

def told (time : Instant) : RunEvent := ⟨.now, time⟩

def sent (message : OutgoingMessage) (answer : Except TransportError Receipt) : RunEvent :=
  ⟨.send message, answer⟩

def generated (request : GenerationRequest) (answer : Except GenerationError String) : RunEvent :=
  ⟨.generate request, answer⟩

def message? : RunEvent → Option OutgoingMessage
  | ⟨.send message, _⟩ => some message
  | _ => none

def delivered? : RunEvent → Option OutgoingMessage
  | ⟨.send message, .ok _⟩ => some message
  | _ => none

def request? : RunEvent → Option GenerationRequest
  | ⟨.generate request, _⟩ => some request
  | _ => none

@[simp] theorem sent_inj {message other : OutgoingMessage}
    {answer otherAnswer : Except TransportError Receipt} :
    sent message answer = sent other otherAnswer ↔ message = other ∧ answer = otherAnswer := by
  constructor
  · intro same
    cases same
    exact ⟨rfl, rfl⟩
  · rintro ⟨rfl, rfl⟩
    rfl

@[simp] theorem generated_inj {request other : GenerationRequest}
    {answer otherAnswer : Except GenerationError String} :
    generated request answer = generated other otherAnswer ↔
      request = other ∧ answer = otherAnswer := by
  constructor
  · intro same
    cases same
    exact ⟨rfl, rfl⟩
  · rintro ⟨rfl, rfl⟩
    rfl

@[simp] theorem sent_ne_generated {message : OutgoingMessage} {request : GenerationRequest}
    {answer : Except TransportError Receipt} {reply : Except GenerationError String} :
    sent message answer ≠ generated request reply := nofun

@[simp] theorem generated_ne_sent {message : OutgoingMessage} {request : GenerationRequest}
    {answer : Except TransportError Receipt} {reply : Except GenerationError String} :
    generated request reply ≠ sent message answer := nofun

@[simp] theorem sent_ne_told {message : OutgoingMessage} {time : Instant}
    {answer : Except TransportError Receipt} : sent message answer ≠ told time := nofun

@[simp] theorem told_ne_sent {message : OutgoingMessage} {time : Instant}
    {answer : Except TransportError Receipt} : told time ≠ sent message answer := nofun

@[simp] theorem generated_ne_told {request : GenerationRequest} {time : Instant}
    {reply : Except GenerationError String} : generated request reply ≠ told time := nofun

end RunEvent

/-- The messages that were handed over. -/
def attempted (history : List RunEvent) : List OutgoingMessage :=
  history.filterMap RunEvent.message?

/-- The messages that were handed over and accepted. -/
def delivered (history : List RunEvent) : List OutgoingMessage :=
  history.filterMap RunEvent.delivered?

def requested (history : List RunEvent) : List GenerationRequest :=
  history.filterMap RunEvent.request?

@[simp] theorem attempted_cons (event : RunEvent) (history : List RunEvent) :
    attempted (event :: history) = event.message?.toList ++ attempted history := by
  rw [attempted, List.filterMap_cons]
  cases event.message? <;> rfl

@[simp] theorem attempted_append (first second : List RunEvent) :
    attempted (first ++ second) = attempted first ++ attempted second := List.filterMap_append

variable {α : Type} {history : List RunEvent} {result : α}

theorem runs_now_bind_iff {next : Instant → RunProgram α} :
    Runs (RunProgram.now >>= next) history result ↔
      ∃ time rest, history = .told time :: rest ∧ Runs (next time) rest result :=
  runs_call_iff

theorem runs_send_bind_iff {message : OutgoingMessage}
    {next : Except TransportError Receipt → RunProgram α} :
    Runs (RunProgram.send message >>= next) history result ↔
      ∃ answer rest, history = .sent message answer :: rest ∧ Runs (next answer) rest result :=
  runs_call_iff

theorem runs_generate_bind_iff {request : GenerationRequest}
    {next : Except GenerationError String → RunProgram α} :
    Runs (RunProgram.generate request >>= next) history result ↔
      ∃ answer rest, history = .generated request answer :: rest ∧
        Runs (next answer) rest result :=
  runs_call_iff

end Chatflow
