import Chatflow.Proofs.Dispatch.Attempt
import Chatflow.Proofs.Dispatch.Stages
import Chatflow.Proofs.Update
import Mathlib.Data.List.Forall2

/-!
# What a dispatch leaves behind

A dispatch for a bot of a store always comes to an end without an error.  If the update says
nothing, nothing happens; otherwise every workflow of the bot that can be run is run in turn, and
the store gets one log for each run that matched and the time of the dispatch, and nothing else.
-/

namespace Chatflow

open List (Forall₂)
open Program (Runs Surroundings)
open WorkflowAttempt (MadeInTurn)

/-! ## What updates say -/

/-- The update carries the event: the tap of a button if there is one, or else a message.  Both
need a text that is not empty, and a tap also needs the message of its button. -/
inductive Update.Says (update : Update) : InboundEvent → Prop
  | tap {query : CallbackQuery} {message : Message} {text : String}
      (tapped : update.callbackQuery = some query) (shown : query.message = some message)
      (carried : query.data = some text) (filled : text ≠ "") :
      update.Says ⟨message.chat, text, some query.sender.firstName, some query.id⟩
  | message {message : Message} {text : String} (untapped : update.callbackQuery = none)
      (sent : update.message = some message) (written : message.text = some text)
      (filled : text ≠ "") :
      update.Says ⟨message.chat, text, message.sender.map (·.firstName), none⟩

theorem InboundEvent.says_of_ofUpdate? {update : Update} {event : InboundEvent}
    (said : ofUpdate? update = some event) : update.Says event := by
  rw [ofUpdate?] at said
  cases tapped : update.callbackQuery with
  | some query =>
      rw [tapped] at said
      obtain ⟨message, text, shown, carried, filled, rfl⟩ := ofCallback?_eq_some_iff.mp said
      exact .tap tapped shown carried filled
  | none =>
      rw [tapped] at said
      obtain ⟨message, sent, read⟩ := Option.bind_eq_some_iff.mp said
      obtain ⟨text, written, filled, rfl⟩ := ofMessage?_eq_some_iff.mp read
      exact .message tapped sent written filled

/-- The update has no chat, or no text that is not empty.  A tapped button hides a message. -/
def Update.IsSilent (update : Update) : Prop :=
  match update.callbackQuery with
  | some query => query.message = none ∨ query.data.getD "" = ""
  | none => (update.message.bind (·.text)).getD "" = ""

theorem InboundEvent.ofCallback?_eq_none_iff {query : CallbackQuery} :
    ofCallback? query = none ↔ query.message = none ∨ query.data.getD "" = "" := by
  rw [ofCallback?]
  cases query.message <;> cases query.data <;> simp

theorem InboundEvent.ofMessage?_eq_none_iff {message : Message} :
    ofMessage? message = none ↔ message.text.getD "" = "" := by
  rw [ofMessage?]
  cases message.text <;> simp

theorem InboundEvent.ofUpdate?_eq_none_iff {update : Update} :
    ofUpdate? update = none ↔ update.IsSilent := by
  rw [ofUpdate?, Update.IsSilent]
  cases update.callbackQuery with
  | some query => exact ofCallback?_eq_none_iff
  | none =>
      cases update.message with
      | none => exact ⟨fun _ => rfl, fun _ => rfl⟩
      | some message => exact ofMessage?_eq_none_iff

/-! ## Attempts and their logs -/

variable {store : Store} {platform : Surroundings DispatchCall DispatchCall.Answer}
  {canGenerate : Bool} {orders : Nat → Nat → VariableOrder} {bot : BotRecord}
  {context : RunContext} {past : List DispatchEvent} {attempts : List WorkflowAttempt}
  {update : Update}

theorem WorkflowAttempt.MadeInTurn.records {surroundings}
    (made : MadeInTurn surroundings canGenerate bot context orders past attempts) :
    Forall₂ (fun listed log => log.Records bot.id listed.workflowId listed.result)
      (attempts.filterMap (·.listed?)) (attempts.filterMap (·.log)) := by
  induction attempts generalizing orders past with
  | nil => exact .nil
  | cons attempt attempts ih =>
      obtain ⟨first, later⟩ := made
      have logged := first.logged
      cases log : attempt.log with
      | none =>
          rw [log] at logged
          have unlisted : attempt.listed? = none := if_pos logged
          rw [List.filterMap_cons_none unlisted, List.filterMap_cons_none log]
          exact ih later
      | some record =>
          rw [log] at logged
          have listed : attempt.listed? = some ⟨attempt.workflow.id, attempt.result⟩ :=
            if_neg logged.1
          rw [List.filterMap_cons_some listed, List.filterMap_cons_some log]
          exact .cons logged.2 (ih later)

theorem WorkflowAttempt.ids_listed_sublist (attempts : List WorkflowAttempt) :
    ((attempts.filterMap (·.listed?)).map (·.workflowId)).Sublist
      ((attempts.map (·.workflow)).map (·.id)) := by
  induction attempts with
  | nil => exact .slnil
  | cons attempt attempts ih =>
      rw [List.map_cons, List.map_cons, List.filterMap_cons, listed?]
      split
      · rename_i unlisted
        exact ih.cons _
      · rename_i listed
        split at listed
        · cases listed
        · cases listed
          exact ih.cons_cons _

/-! ## The parts of a dispatch -/

/-- What a dispatch does before it runs the first workflow. -/
def beginning (store : Store) (bot : BotRecord) (update : Update)
    (answer : Except TransportError Unit) : List DispatchEvent :=
  opening bot.id bot update answer ++ [.loaded bot.id (.ok (store.workflowsOf bot.id true))]

def ending (bot : BotRecord) (time : Instant) : List DispatchEvent :=
  [.ran (.told time), .recorded bot.id time (.ok ())]

variable {event : InboundEvent} {answer : Except TransportError Unit} {time : Instant}
  {history : List DispatchEvent} {runs : List WorkflowRun}
  {outcome : Except DispatchError DispatchSummary}

theorem runs_dispatch_of_event (said : InboundEvent.ofUpdate? update = some event)
    (running : Runs (runWorkflows canGenerate orders bot bot.id (bot.contextOn event)
      ((store.workflowsOf bot.id true).filter (·.HasText))).run history (.ok runs)) :
    Runs (dispatch canGenerate orders bot.id update).run
      (beginning store bot update answer ++ history ++ ending bot time)
      (.ok ⟨some event, runs⟩) := by
  obtain ⟨_, same, completed⟩ | ⟨_, same, -⟩ := runs_runWorkflows_iff.mp running
  · cases same
    rw [beginning, List.append_assoc, List.append_assoc]
    exact runs_dispatch_iff.mpr (@DispatchCourse.completed canGenerate orders bot.id update bot
      answer event _ history runs time (.ok ()) said completed)
  · cases same

/-! ## Answers and changes of the store -/

theorem after_opening (store : Store) (bot : BotRecord) (update : Update)
    (answer : Except TransportError Unit) :
    store.after (opening bot.id bot update answer) = store := by
  rw [Store.after, opening, acknowledgement]
  cases update.callbackQuery <;> rfl

theorem after_beginning (store : Store) (bot : BotRecord) (update : Update)
    (answer : Except TransportError Unit) :
    store.after (beginning store bot update answer) = store := by
  rw [beginning, Store.after_append, after_opening]
  rfl

theorem after_attempts (store : Store) (bot : BotRecord) (update : Update)
    (answer : Except TransportError Unit) (attempts : List WorkflowAttempt) :
    store.after (beginning store bot update answer ++ attempts.flatMap (·.calls bot.token)) =
      { store with logs := store.logs ++ attempts.filterMap (·.log) } := by
  rw [Store.after_append, after_beginning, Store.after, changes_attempts,
    Store.applyAll_appendLog]

theorem recordLastRun_with_logs (distinct : store.Distinct) (known : bot ∈ store.bots)
    (logs : List ExecutionLog) (time : Instant) :
    ({ store with logs } : Store).recordLastRun bot.id time = .ok {
      bots := store.bots.map (·.touched bot.id time)
      workflows := store.workflows
      logs } := by
  have apart : ({ store with logs } : Store).Distinct := ⟨distinct.bots, distinct.workflows⟩
  exact apart.recordLastRun_eq known time

theorem exists_answers_opening (platform : Surroundings DispatchCall DispatchCall.Answer)
    (update : Update) (distinct : store.Distinct) (known : bot ∈ store.bots) :
    ∃ answer, (store.surroundings platform).Answers [] (opening bot.id bot update answer) := by
  have found : Except.ok (store.findBot bot.id) = Except.ok (ε := StoreError) (some bot) :=
    congrArg Except.ok (distinct.findBot_eq known)
  cases tapped : update.callbackQuery with
  | none =>
      refine ⟨.ok (), found, ?_⟩
      rw [acknowledgement, tapped]
      trivial
  | some query =>
      let past := [DispatchEvent.opened bot.token (.ok ()), .found bot.id (.ok (some bot))]
      let answer : Except TransportError Unit := platform past (.acknowledge query.id)
      refine ⟨answer, found, ?_⟩
      rw [acknowledgement, tapped]
      exact ⟨rfl, rfl, trivial⟩

theorem answers_beginning
    (answers : (store.surroundings platform).Answers [] (opening bot.id bot update answer)) :
    (store.surroundings platform).Answers [] (beginning store bot update answer) := by
  refine Program.Surroundings.answers_append_iff.mpr ⟨answers, ?_, trivial⟩
  let opened := opening bot.id bot update answer
  change Except.ok ((store.after (opened.reverse ++ []).reverse).workflowsOf bot.id true) = _
  rw [List.append_nil, List.reverse_reverse, after_opening]
  rfl

theorem answers_ending (platform : Surroundings DispatchCall DispatchCall.Answer)
    (distinct : store.Distinct) (known : bot ∈ store.bots) {logs : List ExecutionLog}
    (stored : store.after history = { store with logs }) :
    ∃ time, (store.surroundings platform).Answers history.reverse (ending bot time) := by
  let time : Instant := platform history.reverse (.run .now)
  refine ⟨time, rfl, ?_, trivial⟩
  have past : (DispatchEvent.ran (.told time) :: history.reverse).reverse =
      history ++ [.ran (.told time)] := by
    rw [List.reverse_cons, List.reverse_reverse]
  change ((store.after (DispatchEvent.ran (.told time) :: history.reverse).reverse).recordLastRun
    bot.id time).map _ = _
  rw [past, Store.after_append, stored]
  change (Store.recordLastRun { store with logs } bot.id time).map _ = _
  rw [recordLastRun_with_logs distinct known]
  rfl

/-! ## Whole dispatches -/

/-- How a dispatch for an event goes, and what it leaves behind. -/
structure DispatchAccount (store : Store)
    (platform : Surroundings DispatchCall DispatchCall.Answer) (canGenerate : Bool)
    (orders : Nat → Nat → VariableOrder) (bot : BotRecord) (update : Update)
    (event : InboundEvent) (answer : Except TransportError Unit)
    (attempts : List WorkflowAttempt) (time : Instant) (summary : DispatchSummary)
    (history : List DispatchEvent) : Prop where
  /-- Every workflow of the bot that is enabled and has a definition is run, in stored order. -/
  workflows : attempts.map (·.workflow) = store.workflows.filter fun workflow =>
    workflow.botId = bot.id ∧ workflow.enabled = true ∧ workflow.HasText
  inTurn : MadeInTurn (store.surroundings platform) canGenerate bot (bot.contextOn event) orders
    (beginning store bot update answer).reverse attempts
  history_eq : history =
    beginning store bot update answer ++ attempts.flatMap (·.calls bot.token) ++ ending bot time
  /-- The runs that matched are listed. -/
  summary_eq : summary = ⟨some event, attempts.filterMap (·.listed?)⟩
  nodup : (summary.runs.map (·.workflowId)).Nodup
  /-- There is one log for each run that is listed, and nothing else is new but the time. -/
  after_eq : ∃ logs,
    Forall₂ (fun listed log => log.Records bot.id listed.workflowId listed.result) summary.runs
      logs ∧
    store.after history = {
      bots := store.bots.map (·.touched bot.id time)
      workflows := store.workflows
      logs := store.logs ++ logs }

theorem filter_hasText_workflowsOf (store : Store) (botId : BotId) :
    (store.workflowsOf botId true).filter (·.HasText) =
      store.workflows.filter fun workflow =>
        workflow.botId = botId ∧ workflow.enabled = true ∧ workflow.HasText := by
  rw [Store.workflowsOf, List.filter_filter]
  refine List.filter_congr fun workflow _ => ?_
  rw [Bool.not_true, Bool.or_false, Bool.and_comm, Bool.and_assoc, Bool.decide_and,
    Bool.decide_and, Bool.decide_eq_true]
  rfl

theorem exists_account (distinct : store.Distinct) (known : bot ∈ store.bots)
    (canGenerate : Bool) (orders : Nat → Nat → VariableOrder)
    (platform : Surroundings DispatchCall DispatchCall.Answer)
    (said : InboundEvent.ofUpdate? update = some event) :
    ∃ answer attempts time summary history,
      (dispatch canGenerate orders bot.id update).run.runIn (store.surroundings platform) =
        (.ok summary, history) ∧
      DispatchAccount store platform canGenerate orders bot update event answer attempts time
        summary history := by
  obtain ⟨answer, greeted⟩ := exists_answers_opening platform update distinct known
  have begun := answers_beginning greeted
  obtain ⟨attempts, workflows, inTurn, runs, answers⟩ :=
    exists_attempts store platform canGenerate orders bot (bot.contextOn event)
      (beginning store bot update answer).reverse
      ((store.workflowsOf bot.id true).filter (·.HasText))
  have stored := after_attempts store bot update answer attempts
  obtain ⟨time, ended⟩ := answers_ending platform distinct known stored
  have dispatched : Runs (dispatch canGenerate orders bot.id update).run
      (beginning store bot update answer ++ attempts.flatMap (·.calls bot.token) ++
        ending bot time) (.ok ⟨some event, attempts.filterMap (·.listed?)⟩) :=
    runs_dispatch_of_event said runs
  refine ⟨answer, attempts, time, _, _, Program.runIn_eq_iff.mpr ⟨dispatched, ?_⟩, ?_⟩
  · refine Program.Surroundings.answers_append_iff.mpr
      ⟨Program.Surroundings.answers_append_iff.mpr ⟨begun, ?_⟩, ?_⟩
    · rw [List.append_nil]
      exact answers
    · rw [List.append_nil]
      exact ended
  · refine ⟨workflows.trans (filter_hasText_workflowsOf store bot.id), inTurn, rfl, rfl, ?_,
      _, inTurn.records, ?_⟩
    · have ids := WorkflowAttempt.ids_listed_sublist attempts
      rw [workflows, filter_hasText_workflowsOf] at ids
      exact distinct.workflows.sublist (ids.trans (List.filter_sublist.map _))
    · rw [Store.after_append, stored]
      change (Store.apply { store with logs := _ } (.recordLastRun bot.id time)) = _
      rw [Store.apply, recordLastRun_with_logs distinct known]
      rfl

/-- A dispatch for a bot of a store never fails, whatever sending, acknowledging and generating
do.  An update that says nothing changes nothing; for an event the dispatch is as accounted. -/
theorem exists_runIn_dispatch {store : Store} {bot : BotRecord} (reachable : store.Reachable)
    (known : bot ∈ store.bots) (canGenerate : Bool) (orders : Nat → Nat → VariableOrder)
    (platform : Surroundings DispatchCall DispatchCall.Answer) (update : Update) :
    ∃ summary history,
      (dispatch canGenerate orders bot.id update).run.runIn (store.surroundings platform) =
        (.ok summary, history) ∧
      ((update.IsSilent ∧ summary = {} ∧ store.after history = store ∧
          history.filterMap DispatchEvent.run? = []) ∨
        ∃ event answer attempts time, update.Says event ∧
          DispatchAccount store platform canGenerate orders bot update event answer attempts time
            summary history) := by
  cases said : InboundEvent.ofUpdate? update with
  | none =>
      have silent := InboundEvent.ofUpdate?_eq_none_iff.mp said
      obtain ⟨answer, greeted⟩ := exists_answers_opening platform update reachable.distinct known
      have runs : Runs (dispatch canGenerate orders bot.id update).run
          (opening bot.id bot update answer ++ []) (.ok {}) := by
        refine runs_dispatch_opening ?_
        rw [said]
        exact runs_attempt_pure_iff.mpr ⟨rfl, rfl⟩
      rw [List.append_nil] at runs
      refine ⟨{}, _, Program.runIn_eq_iff.mpr ⟨runs, greeted⟩,
        .inl ⟨silent, rfl, after_opening store bot update answer, ?_⟩⟩
      rw [opening, acknowledgement]
      cases update.callbackQuery <;> rfl
  | some event =>
      obtain ⟨answer, attempts, time, summary, history, ran, account⟩ :=
        exists_account reachable.distinct known canGenerate orders platform said
      exact ⟨summary, history, ran,
        .inr ⟨event, answer, attempts, time, InboundEvent.says_of_ofUpdate? said, account⟩⟩

def workingPlatform : Surroundings DispatchCall DispatchCall.Answer
  | _, .findBot _ => Except.ok none
  | _, .loadWorkflows _ _ => Except.ok []
  | _, .appendLog _ | _, .recordLastRun _ _ | _, .openTransport _ | _, .acknowledge _ =>
    Except.ok ()
  | past, .newLogId => (RecordId.ofNat past.length : LogId)
  | _, .run .now => Instant.ofUnixNanoseconds 0
  | past, .run (.send _) => Except.ok ⟨.ofNat past.length⟩
  | _, .run (.generate _) => Except.ok "text"

/-- A definition that cannot be read is logged as a failure, and the next workflow is run. -/
theorem exists_runIn_dispatch_broken_and_welcome :
    let bot : BotRecord := { id := .ofNat 1, name := "shop", token := "123:abc" }
    let broken : StoredWorkflow :=
      { id := .ofNat 2, botId := bot.id, name := "broken", definition := some "[" }
    let welcome : StoredWorkflow := {
      id := .ofNat 3
      botId := bot.id
      name := "welcome"
      definition := some ("\x7b\"nodes\":[\x7b\"id\":\"1\",\"type\":\"trigger\"," ++
        "\"data\":\x7b\"label\":\"Command\"\x7d\x7d]\x7d") }
    let store : Store :=
      .applyAll {} [.insertBot bot, .insertWorkflow broken, .insertWorkflow welcome]
    let update : Update := ⟨1, some ⟨10, 555, none, some "/start"⟩, none⟩
    let orders : Nat → Nat → VariableOrder := fun _ _ => .textFirst
    store.Reachable ∧ bot ∈ store.bots ∧ ∃ summary history first second,
      (dispatch false orders bot.id update).run.runIn (store.surroundings workingPlatform) =
        (.ok summary, history) ∧
      summary.runs.map (·.workflowId) = [broken.id, welcome.id] ∧
      (store.after history).logs = [first, second] ∧
      (first.botId = bot.id ∧ first.workflowId = broken.id ∧ first.status = .failed ∧
        first.steps = ["Error parsing definition"] ∧ first.error = some "Invalid JSON") ∧
      second.botId = bot.id ∧ second.workflowId = welcome.id ∧ second.status = .success ∧
        second.steps = ["Triggered by: Command", "Step 1: Command (trigger)"] ∧
        second.error = none := by
  intro bot broken welcome store update orders
  have reachable : store.Reachable := ⟨_, rfl⟩
  have known : bot ∈ store.bots := List.mem_singleton_self bot
  refine ⟨reachable, known, ?_⟩
  obtain ⟨summary, history, ran, ⟨silent, -⟩ | ⟨event, _, _, _, -, account⟩⟩ :=
    exists_runIn_dispatch reachable known false orders workingPlatform update
  · exact absurd silent (by decide : "/start" ≠ "")
  · let time := Instant.ofUnixNanoseconds 0
    have evaluated : ((dispatch false orders bot.id update).run.runIn
        (store.surroundings workingPlatform)).1.toOption.map (·.runs) =
        some [⟨broken.id, {
            status := .failed
            steps := ["Error parsing definition"]
            error := some "Invalid JSON" }⟩,
          ⟨welcome.id, ⟨.success, ["Triggered by: Command", "Step 1: Command (trigger)"], none,
            some welcome.id, some time, some time⟩⟩] := by
      decide +kernel
    rw [ran] at evaluated
    have runs : summary.runs = _ := Option.some.inj evaluated
    obtain ⟨logs, records, after⟩ := account.after_eq
    rw [runs] at records
    obtain ⟨first, _, failed, rest, rfl⟩ := List.forall₂_cons_left_iff.mp records
    obtain ⟨second, _, welcomed, ended, rfl⟩ := List.forall₂_cons_left_iff.mp rest
    cases ended
    refine ⟨summary, history, first, second, ran, congrArg (List.map (·.workflowId)) runs, ?_,
      ⟨failed.botId, failed.workflowId, failed.status, failed.steps, failed.error⟩,
      welcomed.botId, welcomed.workflowId, welcomed.status, welcomed.steps, welcomed.error⟩
    rw [after]
    rfl

end Chatflow
