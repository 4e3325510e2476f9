import Chatflow.Outbox
import Chatflow.Proofs.Run.Alike

/-!
# Runs and the transport

A run stops at the first message that is refused.  So a transport that begins to refuse messages
cuts a run off, and changes nothing before.
-/

namespace Chatflow

open List (Forall₂)
open Program (Runs Surroundings runs_pure_iff)
open RunEvent (Alike)

/-! ## Surroundings of runs -/

/-- What becomes of a message after some calls, the last of which comes first. -/
abbrev Transport := List RunEvent → OutgoingMessage → Except TransportError Receipt

namespace Transport

def accepting (receipt : List RunEvent → OutgoingMessage → Receipt) : Transport :=
  fun past message => .ok (receipt past message)

def acceptingFirst (count : Nat) (failure : TransportError)
    (receipt : List RunEvent → OutgoingMessage → Receipt) : Transport :=
  fun past message =>
    if (attempted past).length < count then .ok (receipt past message) else .error failure

end Transport

/-- The outbox after the messages of some calls, the last of which comes first. -/
def Outbox.after (outbox : Outbox) : List RunEvent → Outbox
  | [] => outbox
  | event :: past =>
    match event.message? with
    | some message => ((outbox.after past).send message).2
    | none => outbox.after past

def Transport.keeping (outbox : Outbox) : Transport :=
  fun past message => ((outbox.after past).send message).1

theorem Outbox.after_eq {outbox : Outbox} (working : outbox.failure = none)
    (past : List RunEvent) :
    outbox.after past = { outbox with sent := outbox.sent ++ attempted past.reverse } := by
  induction past with
  | nil => simp [Outbox.after, attempted]
  | cons event past ih =>
      rw [Outbox.after, List.reverse_cons, attempted_append, attempted_cons]
      cases told : event.message? with
      | none => simpa [attempted] using ih
      | some message => simp [ih, Outbox.send, working, attempted]

theorem Transport.keeping_eq {outbox : Outbox} (working : outbox.failure = none) :
    Transport.keeping outbox = .accepting fun past _ =>
      ⟨.ofNat (outbox.sent.length + (attempted past).length + 1)⟩ := by
  funext past message
  rw [Transport.keeping, Outbox.after_eq working, Outbox.send]
  simp [working, Transport.accepting, attempted, Nat.add_assoc]

/-- Surroundings where texts depend on the requests for them only. -/
def surroundingsOf (clock : List RunEvent → Instant)
    (generator : GenerationRequest → Except GenerationError String) (transport : Transport) :
    Surroundings RunCall RunCall.Answer
  | past, .now => clock past
  | past, .send message => transport past message
  | _, .generate request => generator request

theorem split_of_append_eq {α : Type} {first second before after : List α} {value : α}
    (same : first ++ second = before ++ value :: after) :
    (∃ more, before = first ++ more ∧ second = more ++ value :: after) ∨
      ∃ more, first = before ++ value :: more ∧ after = more ++ second := by
  rcases List.append_eq_append_iff.mp same with ⟨more, rfl, rest⟩ | ⟨more, rfl, rest⟩
  · exact .inl ⟨more, rfl, rest⟩
  · cases more with
    | nil => exact .inl ⟨[], by simp, rest.symm⟩
    | cons head more =>
        rw [List.cons_append, List.cons.injEq] at rest
        obtain ⟨rfl, rfl⟩ := rest
        exact .inr ⟨more, rfl, rfl⟩

variable {canGenerate : Bool} {order : VariableOrder} {orders : Nat → VariableOrder}
  {context : RunContext} {visit : Visit} {graph : Graph} {made left : Nat} {node : Node}
  {progress : Progress WalkEnd} {history : List RunEvent} {definition : Option String}
  {workflowId : Option WorkflowId} {result : RunResult}

/-! ## A refused message cuts a run off -/

variable {before after : List RunEvent} {message : OutgoingMessage} {receipt : Receipt}

/-- A visit on which a message is accepted fails if that message is refused instead. -/
theorem Visit.Allowed.refuse (allowed : visit.Allowed canGenerate order context)
    (events : visit.events = before ++ .sent message (.ok receipt) :: after)
    (failure : TransportError) :
    Visit.Allowed canGenerate order context {
      node := visit.node
      events := before ++ [.sent message (.error failure)]
      failure := some (.delivery visit.node.id failure) } := by
  cases allowed with
  | passed _ | unsupported _ | noGenerator _ _ | noKey _ _ _ => simp at events
  | sent kind =>
      cases before with
      | nil =>
          simp only [List.nil_append, List.cons.injEq, RunEvent.sent_inj] at events
          obtain ⟨⟨rfl, -⟩, -⟩ := events
          exact .notSent kind
      | cons first before => simp at events
  | notSent kind => cases before <;> simp at events
  | notGenerated kind can keyed => cases before <;> simp at events
  | answered kind can keyed =>
      cases before with
      | nil => simp at events
      | cons first before =>
          cases before with
          | nil =>
              simp only [List.cons_append, List.nil_append, List.cons.injEq,
                RunEvent.sent_inj] at events
              obtain ⟨rfl, ⟨rfl, -⟩, -⟩ := events
              exact .notAnswered kind can keyed
          | cons second before => simp at events
  | notAnswered kind can keyed =>
      rcases before with _ | ⟨first, _ | ⟨second, before⟩⟩ <;> simp at events

theorem Visit.Allowed.runs_walkFrom_refuse
    (allowed : visit.Allowed canGenerate (orders (made + 1)) context)
    (next : graph.successor? context.userText node = some visit.node)
    (events : visit.events = before ++ .sent message (.ok receipt) :: after)
    (failure : TransportError) :
    Runs (walkFrom graph canGenerate orders context (left + 1) made node)
      (before ++ [.sent message (.error failure)])
      ⟨graph.stepEntries context.userText (made + 1) node,
        .error (.delivery visit.node.id failure)⟩ := by
  let refused : Visit := {
    node := visit.node
    events := before ++ [.sent message (.error failure)]
    failure := some (.delivery visit.node.id failure) }
  refine runs_walkFrom_succ_iff.mpr (.inr (.inl ⟨refused, _, next,
    allowed.refuse events failure, rfl, rfl, ?_⟩))
  rw [List.append_nil]

theorem exists_runs_walkFrom_refuse
    (runs : Runs (walkFrom graph canGenerate orders context left made node)
      (before ++ .sent message (.ok receipt) :: after) progress)
    (failure : TransportError) :
    ∃ steps refused, steps <+: progress.steps ∧
      Runs (walkFrom graph canGenerate orders context left made node)
        (before ++ [.sent message (.error failure)])
        ⟨steps, .error (.delivery refused failure)⟩ := by
  induction left generalizing made node before progress with
  | zero =>
      have none := (runs_pure_iff.mp runs).1
      simp at none
  | succ left ih =>
      rcases runs_walkFrom_succ_iff.mp runs with ⟨ending, ends, none, rfl⟩ |
        ⟨visit, other, next, allowed, failed, events, rfl⟩ |
        ⟨visit, rest, further, next, allowed, succeeded, later, events, rfl⟩
      · simp at none
      · exact ⟨_, _, List.prefix_append _ _,
          allowed.runs_walkFrom_refuse next events.symm failure⟩
      · -- The message is one of a later visit, or of the visit at hand.
        rcases split_of_append_eq events.symm with ⟨more, rfl, rfl⟩ | ⟨more, here, rfl⟩
        · obtain ⟨steps, refused, initial, cut⟩ := ih later
          refine ⟨_, refused, ?_, runs_walkFrom_succ_iff.mpr (.inr (.inr
            ⟨visit, _, _, next, allowed, succeeded, cut, by rw [List.append_assoc], rfl⟩))⟩
          exact (List.prefix_append_right_inj _).mpr initial
        · refine ⟨_, _, ?_, allowed.runs_walkFrom_refuse next here failure⟩
          rw [List.append_assoc]
          exact List.prefix_append _ _

theorem RunCourse.exists_refuse
    (course : RunCourse definition canGenerate orders workflowId context history result)
    (events : history = before ++ .sent message (.ok receipt) :: after)
    (failure : TransportError) (time : Instant) :
    ∃ result' steps, RunCourse definition canGenerate orders workflowId context
        (before ++ [.sent message (.error failure), .told time]) result' ∧
      result'.status = .failed ∧ result'.error = some failure.message ∧
      result'.steps = steps ++ ["Error: " ++ failure.message] ∧ steps <+: result.steps := by
  cases course with
  | unreadable unread | unmatched read unselected => cases before <;> simp at events
  | @walked startedAt finishedAt parsed trigger walked progress read selected runs =>
      have parts : [.told startedAt] ++ (walked ++ [.told finishedAt]) =
          before ++ .sent message (.ok receipt) :: after := events
      rcases split_of_append_eq parts with
        ⟨more, rfl, inner⟩ | ⟨more, first, -⟩
      · rcases split_of_append_eq inner with ⟨tail, rfl, last⟩ | ⟨tail, rfl, rfl⟩
        · cases tail <;> simp at last
        · obtain ⟨steps, refused, initial, cut⟩ := exists_runs_walkFrom_refuse runs failure
          have parts : [.told startedAt] ++ more ++ [.sent message (.error failure), .told time] =
              .told startedAt :: (more ++ [.sent message (.error failure)]) ++ [.told time] := by
            simp
          rw [parts]
          refine ⟨_, ("Triggered by: " ++ triggerName trigger) :: steps,
            .walked read selected cut, rfl, rfl, rfl, ?_⟩
          change _ <+: (RunResult.ofWalk trigger progress).steps
          rw [RunResult.steps_ofWalk]
          exact ((List.prefix_cons_inj _).mpr initial).trans (List.prefix_append _ _)
      · cases before <;> simp at first

/-! ## Runs on two transports -/

section Runs

variable {clock clock' : List RunEvent → Instant}
  {generator : GenerationRequest → Except GenerationError String}
  {receipts receipts' : List RunEvent → OutgoingMessage → Receipt}
  {past past' : List RunEvent} {count : Nat} {failure : TransportError}

theorem alike_replay
    (answers : (surroundingsOf clock generator (.accepting receipts)).Answers past history) :
    Forall₂ Alike history
      ((surroundingsOf clock' generator (.accepting receipts')).replay past' history) := by
  induction history generalizing past past' with
  | nil => exact .nil
  | cons event history ih =>
      obtain ⟨call, answer⟩ := event
      obtain ⟨given, answers⟩ := answers
      refine .cons ?_ (ih answers)
      cases call with
      | now => exact .told
      | send message =>
          cases given
          exact .sent
      | generate request =>
          cases given
          exact .generated

theorem answers_acceptingFirst
    (answers : (surroundingsOf clock generator (.accepting receipts)).Answers past history)
    (bound : (attempted past).length + (attempted history).length ≤ count) :
    (surroundingsOf clock generator (.acceptingFirst count failure receipts)).Answers past
      history := by
  induction history generalizing past with
  | nil => trivial
  | cons event history ih =>
      obtain ⟨call, answer⟩ := event
      obtain ⟨given, answers⟩ := answers
      rw [attempted_cons, List.length_append] at bound
      refine ⟨?_, ih answers ?_⟩
      · cases call with
        | now | generate request => exact given
        | send message =>
            have room : (attempted past).length < count := by
              simp only [RunEvent.message?, Option.toList_some, List.length_singleton] at bound
              omega
            rw [← given]
            exact if_pos room
      · rw [attempted_cons, List.length_append]
        omega

theorem exists_split_of_lt_attempted (many : count < (attempted history).length) :
    ∃ before message answer after, history = before ++ .sent message answer :: after ∧
      (attempted before).length = count := by
  induction history generalizing count with
  | nil => cases many
  | cons event history ih =>
      obtain ⟨call, answer⟩ := event
      cases call with
      | send message =>
          cases count with
          | zero => exact ⟨[], message, answer, history, rfl, rfl⟩
          | succ count =>
              have fewer : count < (attempted history).length := Nat.lt_of_succ_lt_succ many
              obtain ⟨before, other, reply, after, rfl, length⟩ := ih fewer
              exact ⟨.sent message answer :: before, other, reply, after, rfl,
                congrArg Nat.succ length⟩
      | now | generate request =>
          obtain ⟨before, other, reply, after, rfl, length⟩ := ih many
          exact ⟨⟨_, answer⟩ :: before, other, reply, after, rfl, length⟩

theorem delivered_eq_attempted
    (answers : (surroundingsOf clock generator (.accepting receipts)).Answers past history) :
    delivered history = attempted history := by
  induction history generalizing past with
  | nil => rfl
  | cons event history ih =>
      obtain ⟨call, answer⟩ := event
      obtain ⟨given, answers⟩ := answers
      have rest : delivered history = attempted history := ih answers
      cases call with
      | now | generate request => exact rest
      | send message =>
          cases given
          exact congrArg (message :: ·) rest

variable {definition : Option String} {canGenerate : Bool} {orders : Nat → VariableOrder}
  {workflowId : Option WorkflowId} {context : RunContext}

theorem alike_runIn_accepting :
    let program := run definition canGenerate orders workflowId context
    let first := program.runIn (surroundingsOf clock generator (.accepting receipts))
    let second := program.runIn (surroundingsOf clock' generator (.accepting receipts'))
    Forall₂ Alike first.2 second.2 ∧ second.1.untimed = first.1.untimed := by
  intro program first second
  let surroundings := surroundingsOf clock generator (.accepting receipts)
  let others := surroundingsOf clock' generator (.accepting receipts')
  have course := runs_run_iff.mp (Program.runs_runIn surroundings program)
  have answers : surroundings.Answers [] first.2 := Program.answers_runIn surroundings program
  have alike : Forall₂ Alike first.2 (others.replay [] first.2) := alike_replay answers
  obtain ⟨result, course, untimed⟩ := course.of_alike alike
  have ran : program.runIn others = (result, others.replay [] first.2) :=
    Program.runIn_eq_iff.mpr ⟨runs_run_iff.mpr course, others.answers_replay _ _⟩
  change Forall₂ Alike first.2 (program.runIn others).2 ∧
    (program.runIn others).1.untimed = first.1.untimed
  rw [ran]
  exact ⟨alike, untimed⟩

theorem runIn_acceptingFirst_of_le {program : RunProgram RunResult}
    (few : (attempted (program.runIn
      (surroundingsOf clock generator (.accepting receipts))).2).length ≤ count) :
    program.runIn (surroundingsOf clock generator (.acceptingFirst count failure receipts)) =
      program.runIn (surroundingsOf clock generator (.accepting receipts)) := by
  let surroundings := surroundingsOf clock generator (.accepting receipts)
  have answers : surroundings.Answers [] (program.runIn surroundings).2 :=
    Program.answers_runIn surroundings program
  refine Program.runIn_eq_iff.mpr ⟨Program.runs_runIn surroundings program,
    answers_acceptingFirst answers ?_⟩
  change 0 + _ ≤ count
  rw [Nat.zero_add]
  exact few

/-- A transport that refuses a message of a run cuts the run off at that message. -/
theorem exists_runIn_acceptingFirst (failure : TransportError)
    (many : count < (attempted ((run definition canGenerate orders workflowId context).runIn
      (surroundingsOf clock generator (.accepting receipts))).2).length) :
    let program := run definition canGenerate orders workflowId context
    let whole := program.runIn (surroundingsOf clock generator (.accepting receipts))
    let cut := program.runIn
      (surroundingsOf clock generator (.acceptingFirst count failure receipts))
    ∃ before message receipt after time steps,
      whole.2 = before ++ .sent message (.ok receipt) :: after ∧
      cut.2 = before ++ [.sent message (.error failure), .told time] ∧
      (attempted before).length = count ∧ delivered before = attempted before ∧
      cut.1.status = .failed ∧ cut.1.error = some failure.message ∧
      cut.1.steps = steps ++ ["Error: " ++ failure.message] ∧ steps <+: whole.1.steps := by
  intro program whole cut
  let surroundings := surroundingsOf clock generator (.accepting receipts)
  let cutting := surroundingsOf clock generator (.acceptingFirst count failure receipts)
  have course := runs_run_iff.mp (Program.runs_runIn surroundings program)
  have answers : surroundings.Answers [] whole.2 := Program.answers_runIn surroundings program
  obtain ⟨before, message, answer, after, events, length⟩ := exists_split_of_lt_attempted many
  have split : whole.2 = before ++ .sent message answer :: after := events
  rw [split] at answers
  obtain ⟨early, accepted, -⟩ := Surroundings.answers_append_iff.mp answers
  cases accepted
  let time : Instant := clock (.sent message (.error failure) :: (before.reverse ++ []))
  obtain ⟨result, steps, refused, status, error, trace, initial⟩ :=
    course.exists_refuse split failure time
  have refusing : cutting.Answers []
      (before ++ [.sent message (.error failure), .told time]) := by
    refine Surroundings.answers_append_iff.mpr ⟨answers_acceptingFirst early ?_, ?_, rfl, trivial⟩
    · change 0 + _ ≤ count
      omega
    · have full : ¬(attempted (before.reverse ++ [])).length < count := by
        rw [List.append_nil, attempted, List.filterMap_reverse, List.length_reverse]
        exact Nat.not_lt.mpr (Nat.le_of_eq length.symm)
      exact if_neg full
  have ran : program.runIn cutting = (result, _) :=
    Program.runIn_eq_iff.mpr ⟨runs_run_iff.mpr refused, refusing⟩
  refine ⟨before, message, _, after, time, steps, split, ?_, length,
    delivered_eq_attempted early, ?_⟩
  · exact congrArg Prod.snd ran
  · change (program.runIn cutting).1.status = _ ∧ (program.runIn cutting).1.error = _ ∧
      (program.runIn cutting).1.steps = _ ∧ _
    rw [ran]
    exact ⟨status, error, trace, initial⟩

structure Conduct where
  result : RunResult
  attempted : List OutgoingMessage
  delivered : List OutgoingMessage
  requested : List GenerationRequest

def conduct (ran : RunResult × List RunEvent) : Conduct where
  result := ran.1.untimed
  attempted := attempted ran.2
  delivered := delivered ran.2
  requested := requested ran.2

theorem conduct_runIn_accepting :
    let program := run definition canGenerate orders workflowId context
    conduct (program.runIn (surroundingsOf clock' generator (.accepting receipts'))) =
      conduct (program.runIn (surroundingsOf clock generator (.accepting receipts))) := by
  intro program
  let first := program.runIn (surroundingsOf clock generator (.accepting receipts))
  let second := program.runIn (surroundingsOf clock' generator (.accepting receipts'))
  obtain ⟨alike, untimed⟩ : Forall₂ Alike first.2 second.2 ∧
      second.1.untimed = first.1.untimed :=
    alike_runIn_accepting
  rw [conduct, conduct, Conduct.mk.injEq]
  refine ⟨untimed, ?_, ?_, ?_⟩
  · exact (filterMap_eq_of_forall₂ alike fun _ _ => Alike.message?_eq).symm
  · exact (filterMap_eq_of_forall₂ alike fun _ _ => Alike.delivered?_eq).symm
  · exact (filterMap_eq_of_forall₂ alike fun _ _ => Alike.request?_eq).symm

theorem runIn_acceptingFirst_of_lt (failure : TransportError)
    (many : count < (attempted ((run definition canGenerate orders workflowId context).runIn
      (surroundingsOf clock generator (.accepting receipts))).2).length) :
    let program := run definition canGenerate orders workflowId context
    let whole := program.runIn (surroundingsOf clock generator (.accepting receipts))
    let cut := program.runIn
      (surroundingsOf clock generator (.acceptingFirst count failure receipts))
    cut.1.status = .failed ∧ cut.1.error = some failure.message ∧
      attempted cut.2 = (attempted whole.2).take (count + 1) ∧
      delivered cut.2 = (attempted whole.2).take count ∧
      requested cut.2 <+: requested whole.2 ∧
      ∃ steps, steps <+: whole.1.steps ∧
        cut.1.steps = steps ++ ["Error: " ++ failure.message] := by
  intro program whole cut
  obtain ⟨before, message, receipt, after, time, steps, split, events, length, early, status,
    error, trace, initial⟩ := exists_runIn_acceptingFirst failure many
  have cutEvents : cut.2 = before ++ [.sent message (.error failure), .told time] := events
  have wholeEvents : whole.2 = before ++ .sent message (.ok receipt) :: after := split
  refine ⟨status, error, ?_, ?_, ?_, steps, initial, trace⟩
  · rw [cutEvents, wholeEvents, attempted_append, attempted_append, ← length,
      List.take_length_add_append]
    rfl
  · rw [cutEvents, wholeEvents, attempted_append, ← length, List.take_left, ← early, delivered,
      delivered, List.filterMap_append]
    exact List.append_nil _
  · rw [cutEvents, wholeEvents, requested, requested, List.filterMap_append,
      List.filterMap_append]
    exact (List.prefix_append_right_inj _).mpr (List.nil_prefix)

/-- A run does not look at receipts and times, so that an outbox shows what a transport gets that
accepts every message; and a transport that accepts the first messages only cuts this run off at
the first message that it refuses.  All these runs fill in prompts in the same orders, and it does
not matter in which. -/
theorem runIn_run_transport (definition : Option String) (canGenerate : Bool)
    (orders : Nat → VariableOrder) (workflowId : Option WorkflowId) (context : RunContext)
    (generator : GenerationRequest → Except GenerationError String) (count : Nat)
    (failure : TransportError) (clock clock' : List RunEvent → Instant)
    (receipts receipts' : List RunEvent → OutgoingMessage → Receipt) :
    let program := run definition canGenerate orders workflowId context
    let whole := program.runIn (surroundingsOf clock generator (.accepting receipts))
    let cut := program.runIn
      (surroundingsOf clock' generator (.acceptingFirst count failure receipts'))
    let other := program.runIn (surroundingsOf clock' generator (.accepting receipts'))
    let dry := program.runIn (surroundingsOf clock' generator (.keeping {}))
    ((attempted whole.2).length ≤ count → conduct cut = conduct whole) ∧
    (count < (attempted whole.2).length →
      cut.1.status = .failed ∧ cut.1.error = some failure.message ∧
      attempted cut.2 = (attempted whole.2).take (count + 1) ∧
      (attempted cut.2).length = count + 1 ∧
      delivered cut.2 = (attempted whole.2).take count ∧
      requested cut.2 <+: requested whole.2 ∧
      ∃ steps, steps <+: whole.1.steps ∧
        cut.1.steps = steps ++ ["Error: " ++ failure.message]) ∧
    conduct other = conduct whole ∧ delivered whole.2 = attempted whole.2 ∧
    conduct dry = conduct whole ∧
    (({} : Outbox).after dry.2.reverse).sent = attempted whole.2 := by
  intro program whole cut other dry
  have same : conduct other = conduct whole := conduct_runIn_accepting
  have sent : attempted other.2 = attempted whole.2 := congrArg Conduct.attempted same
  have asked : requested other.2 = requested whole.2 := congrArg Conduct.requested same
  have steps : other.1.steps = whole.1.steps :=
    congrArg (fun seen => seen.result.steps) same
  have dryRun : conduct dry = conduct whole := by
    change conduct (program.runIn (surroundingsOf clock' generator (.keeping {}))) = conduct whole
    rw [Transport.keeping_eq rfl]
    exact conduct_runIn_accepting
  refine ⟨?_, ?_, same, ?_, dryRun, ?_⟩
  · intro few
    rw [← sent] at few
    rw [← same]
    exact congrArg conduct (runIn_acceptingFirst_of_le few)
  · intro many
    rw [← sent] at many
    obtain ⟨status, error, tried, accepted, texts, trace⟩ :=
      runIn_acceptingFirst_of_lt failure many
    rw [← sent, ← asked, ← steps]
    refine ⟨status, error, tried, ?_, accepted, texts, trace⟩
    have cutSent : attempted cut.2 = (attempted other.2).take (count + 1) := tried
    rw [cutSent, List.length_take]
    exact Nat.min_eq_left many
  · exact delivered_eq_attempted (Program.answers_runIn
      (surroundingsOf clock generator (.accepting receipts)) program)
  · rw [Outbox.after_eq rfl, List.reverse_reverse]
    exact congrArg Conduct.attempted dryRun

end Runs

end Chatflow
