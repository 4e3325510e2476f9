import Chatflow.Proofs.Dispatch.Interleaving

/-!
# Dispatches at the same time

Dispatches on one store do not disturb each other.  Each that finds its bot ends well, and the store
has the logs of all of them, each log once and in the order of its dispatch.
-/

namespace Chatflow

open List (Forall₂)
open Program (Runs)
open SharedStore (Step)

/-! ## Logs of one dispatch -/

theorem appendedLogs_map_ran (events : List RunEvent) :
    appendedLogs (events.map DispatchEvent.ran) = [] := by
  rw [appendedLogs, List.filterMap_eq_nil_iff]
  simp [DispatchEvent.ran, DispatchEvent.appended?]

theorem appendedLogs_logCalls (result : RunResult) (log : ExecutionLog) :
    appendedLogs (logCalls result log (.ok ())) = [log] := by
  rw [logCalls, endCalls]
  cases result.finishedAt <;> rfl

theorem appendedLogs_opening (botId : BotId) (bot : BotRecord) (update : Update)
    (answer : Except TransportError Unit) :
    appendedLogs (opening botId bot update answer) = [] := by
  rw [opening, acknowledgement]
  cases update.callbackQuery <;> rfl

/-- The logs are those of the runs, one after the other. -/
def LogsOf (botId : BotId) (runs : List WorkflowRun) (logs : List ExecutionLog) : Prop :=
  Forall₂ (fun run log => log.Records botId run.workflowId run.result) runs logs

variable {canGenerate : Bool} {runOrders : Nat → VariableOrder}
  {orders : Nat → Nat → VariableOrder} {bot : BotRecord} {botId : BotId} {context : RunContext}
  {update : Update} {history : List DispatchEvent}

theorem appendedLogs_opened (token : String) (answer : Except TransportError Unit)
    (history : List DispatchEvent) :
    appendedLogs (.opened token answer :: history) = appendedLogs history :=
  List.filterMap_cons_none rfl

theorem WorkflowCourse.logsOf {workflow : StoredWorkflow} {found : Option WorkflowRun}
    (course : WorkflowCourse canGenerate runOrders bot botId context workflow history
      (.ok found)) :
    LogsOf botId found.toList (appendedLogs history) := by
  generalize ended : Except.ok found = outcome at course
  cases course with
  | closed => cases ended
  | unmatched runs unmatched =>
      cases ended
      rw [appendedLogs_opened, appendedLogs_map_ran]
      exact .nil
  | @matched events result log answer runs matched records =>
      cases answer with
      | error failure => cases ended
      | ok done =>
          cases ended
          rw [appendedLogs_opened, appendedLogs_append, appendedLogs_map_ran,
            appendedLogs_logCalls]
          exact .cons records .nil

theorem Completed.logsOf {workflows : List StoredWorkflow} {runs : List WorkflowRun}
    (completed : Completed canGenerate bot botId context orders workflows history runs) :
    LogsOf botId runs (appendedLogs history) := by
  induction completed with
  | nil => exact .nil
  | cons first _ ih =>
      rw [appendedLogs_append]
      exact List.rel_append first.logsOf ih

/-! ## What becomes of a dispatch -/

/-- A dispatch that has found its bot ends well, with the runs that it has logged; one that has not
says so. -/
inductive Returned (botId : BotId) (logs : List ExecutionLog) :
    Option BotRecord → Except DispatchError DispatchSummary → Prop
  | handled (bot : BotRecord) {summary : DispatchSummary}
      (logged : LogsOf botId summary.runs logs) : Returned botId logs (some bot) (.ok summary)
  | unknown (unlogged : logs = []) : Returned botId logs none (.error (.botNotFound botId))

variable {outcome : Except DispatchError DispatchSummary}

theorem IsServed.failure?_eq_some {event : DispatchEvent} {error : DispatchError}
    (served : IsServed history) (member : event ∈ history)
    (failing : event.failure? botId = some error) :
    (∃ id, event = .found id (.ok none)) ∨
      ∃ id time failure, event = .recorded id time (.error failure) := by
  obtain ⟨store, next, serves⟩ := served.served event member
  exact serves.failure?_eq_some failing

theorem IsServed.not_interrupted {workflows : List StoredWorkflow} {error : DispatchError}
    {before : List DispatchEvent} (served : IsServed (before ++ history)) :
    ¬ Interrupted canGenerate bot botId context orders workflows history error := by
  intro interrupted
  have forWorkflow := interrupted.forWorkflow
  cases interrupted.stops with
  | @failed earlier last _ _ failing =>
      rcases served.failure?_eq_some (by simp) failing with ⟨id, rfl⟩ | ⟨id, time, failure, rfl⟩
      · cases forWorkflow (.found id (.ok none)) (by simp)
      · cases forWorkflow (.recorded id time (.error failure)) (by simp)

theorem appendedLogs_completed (update : Update) (answer : Except TransportError Unit)
    (workflows : List StoredWorkflow) (time : Instant) (recorded : Except StoreError Unit) :
    appendedLogs (opening botId bot update answer ++ .loaded botId (.ok workflows) ::
      (history ++ [.ran (.told time), .recorded botId time recorded])) = appendedLogs history := by
  have ending : appendedLogs [.ran (.told time), .recorded botId time recorded] = [] := rfl
  have loading : appendedLogs [.loaded botId (.ok workflows)] = [] := rfl
  rw [List.append_cons, appendedLogs_append, appendedLogs_append, appendedLogs_append,
    appendedLogs_opening, loading, ending, List.append_nil, List.append_nil, List.nil_append]

/-- A bot that was found is still there when the time is recorded. -/
theorem IsServed.recorded_eq_ok {update : Update} {answer : Except TransportError Unit}
    {time : Instant} {recorded : Except StoreError Unit}
    (served : IsServed (opening botId bot update answer ++ history ++
      [.recorded botId time recorded])) : recorded = .ok () := by
  cases recorded with
  | ok done => rfl
  | error failure =>
      have opened : .found botId (.ok (some bot)) ∈ opening botId bot update answer := .head _
      exact absurd (List.mem_append_left _ opened) (served.recorded _ _ _ _ [] rfl bot)

theorem DispatchCourse.returned
    (course : DispatchCourse canGenerate orders botId update history outcome)
    (served : IsServed history) :
    ∃ found, history.head? = some (.found botId (.ok found)) ∧
      Returned botId (appendedLogs history) found outcome := by
  cases course with
  | botNotFound => exact ⟨none, rfl, .unknown rfl⟩
  | @silent bot answer silent =>
      refine ⟨some bot, rfl, .handled bot ?_⟩
      rw [appendedLogs_opening]
      exact .nil
  | @completed bot answer event workflows history runs time recorded said completed =>
      have split : .loaded botId (.ok workflows) ::
          (history ++ [.ran (.told time), .recorded botId time recorded]) =
        (.loaded botId (.ok workflows) :: (history ++ [.ran (.told time)])) ++
          [.recorded botId time recorded] := by simp
      rw [split, ← List.append_assoc] at served
      obtain rfl := served.recorded_eq_ok
      refine ⟨some bot, rfl, .handled bot ?_⟩
      rw [appendedLogs_completed]
      exact completed.logsOf
  | @interrupted bot answer event workflows history error said interrupted =>
      rw [List.append_cons] at served
      exact absurd interrupted served.not_interrupted
  -- A store answers the other calls.
  | botNotLoaded =>
      obtain ⟨store, next, serves⟩ := served.served _ (.head _)
      cases serves.found_eq
  | closed =>
      obtain ⟨store, next, serves⟩ := served.served _ (.tail _ (.head _))
      cases serves
  | workflowsNotLoaded =>
      obtain ⟨store, next, serves⟩ := served.served _ (List.mem_append_right _ (.head _))
      cases serves

/-! ## Whose events are whose -/

/-- The whole list is made of the parts, each of which keeps its order. -/
def Interleaves {ι α : Type} [DecidableEq ι] (whole : List α) (parts : ι → List α) : Prop :=
  ∃ owned : List (ι × α), owned.map Prod.snd = whole ∧
    ∀ owner, (owned.filter (·.1 = owner)).map Prod.snd = parts owner

/-- A dispatch for each owner on one store. -/
structure DispatchJob where
  canGenerate : Bool
  orders : Nat → Nat → VariableOrder
  botId : BotId
  update : Update

def SharedStore.start {ι : Type} (jobs : ι → DispatchJob) (store : Store) : SharedStore ι where
  store
  tasks owner :=
    let job := jobs owner
    (dispatch job.canGenerate job.orders job.botId job.update).run

variable {ι : Type} [DecidableEq ι] {start system : SharedStore ι} {deeds : List (Deed ι)}
  {owner : ι}

theorem interleaves_calls {α : Type} (read : DispatchEvent → Option α) (deeds : List (Deed ι)) :
    Interleaves (deeds.filterMap fun deed => deed.call?.bind fun call => read call.2)
      fun owner => (ownEvents owner deeds).filterMap read := by
  refine ⟨deeds.filterMap fun deed => deed.call?.bind fun call => (read call.2).map (call.1, ·),
    ?_, fun owner => ?_⟩
  · rw [List.map_filterMap]
    refine List.filterMap_congr fun deed _ => ?_
    cases deed with
    | insertBot bot => rfl
    | insertWorkflow workflow => rfl
    | call other event => simp [Deed.call?, Function.comp_def]
  · change _ = (ownEvents owner deeds).filterMap read
    rw [ownEvents, List.filterMap_filterMap, List.filter_filterMap, List.map_filterMap]
    refine List.filterMap_congr fun deed _ => ?_
    cases deed with
    | insertBot bot => rfl
    | insertWorkflow workflow => rfl
    | call other event =>
        by_cases same : other = owner
        · subst same
          cases found : read event <;> simp [Deed.call?, Deed.own?, found]
        · cases found : read event <;> simp [Deed.call?, Deed.own?, found, same]

theorem interleaves_written (deeds : List (Deed ι)) :
    Interleaves ((deeds.filterMap Deed.written?).map Prod.snd) fun owner =>
      appendedLogs (ownEvents owner deeds) := by
  have written : (deeds.filterMap Deed.written?).map Prod.snd =
      deeds.filterMap fun deed => deed.call?.bind fun call => call.2.appended? := by
    rw [List.map_filterMap]
    refine List.filterMap_congr fun deed _ => ?_
    cases deed with
    | insertBot bot => rfl
    | insertWorkflow workflow => rfl
    | call other event => simp [Deed.written?, Deed.call?, Function.comp_def]
  rw [written]
  exact interleaves_calls DispatchEvent.appended? deeds

/-- What the store had for the owner's dispatch when it looked for its bot. -/
def Finds (start : SharedStore ι) (deeds : List (Deed ι)) (owner : ι) (botId : BotId)
    (found : Option BotRecord) : Prop :=
  ∃ before after system, deeds = before ++ .call owner (.found botId (.ok found)) :: after ∧
    ownEvents owner before = [] ∧ start.Goes before system ∧ system.store.findBot botId = found

theorem SharedStore.Goes.finds {botId : BotId} {found : Option BotRecord}
    (goes : start.Goes deeds system)
    (first : (ownEvents owner deeds).head? = some (.found botId (.ok found))) :
    Finds start deeds owner botId found := by
  induction goes with
  | here => cases first
  | @snoc deeds deed system _ goes step ih =>
      rw [ownEvents_concat] at first
      cases earlier : ownEvents owner deeds with
      | nil =>
          rw [earlier, List.nil_append, Option.head?_toList] at first
          obtain ⟨-, -, -, serves⟩ := step.exists_call first
          rw [Deed.own?_eq_some_iff.mp first]
          exact ⟨deeds, [], system, rfl, earlier, goes, (Except.ok.inj serves.found_eq).symm⟩
      | cons event events =>
          rw [earlier] at first ih
          obtain ⟨before, after, middle, rfl, idle, reached, same⟩ := ih first
          exact ⟨before, after ++ [deed], middle, by simp, idle, reached, same⟩

/-- Dispatches go on beside each other on one store, and bots and workflows are put into it in the
meantime.  One that found its bot ends well.  The store has the logs that it had, and then those of
each dispatch in their order: one for each run that the dispatch tells of, and no other.  Whatever
is done later, these logs stay in their places.  No dispatch is ever kept from going on, and none
goes on forever. -/
theorem dispatches_on_shared_store (jobs : ι → DispatchJob) (store : Store)
    (goes : (SharedStore.start jobs store).Goes deeds system) :
    (∀ owner outcome, system.tasks owner = .done outcome →
      ∃ found, Finds (.start jobs store) deeds owner (jobs owner).botId found ∧
        Returned (jobs owner).botId (appendedLogs (ownEvents owner deeds)) found outcome) ∧
    (∃ written, system.store.logs = store.logs ++ written ∧
      Interleaves written fun owner => appendedLogs (ownEvents owner deeds)) ∧
    (∀ later final, system.Goes later final → system.store.logs <+: final.store.logs) ∧
    ∀ owner,
      ((∃ outcome, system.tasks owner = .done outcome) ∨
        ∃ event next, system.Step (.call owner event) next) ∧
      ∀ (systems : Nat → SharedStore ι) (moves : Nat → Deed ι), systems 0 = system →
        (∀ n, (systems n).Step (moves n) (systems (n + 1))) →
        ∃ bound, ∀ n ≥ bound, (moves n).own? owner = none := by
  refine ⟨fun owner outcome ended => ?_, ⟨_, goes.logs_eq, interleaves_written deeds⟩,
    fun _ _ further => further.logs_prefix, fun owner => ⟨system.exists_step owner, ?_⟩⟩
  · have leads := goes.leads owner
    rw [ended] at leads
    have course := runs_dispatch_iff.mp (leads.runs : Runs (dispatch _ _ _ _).run _ _)
    obtain ⟨found, first, returned⟩ := course.returned (goes.isServed owner)
    exact ⟨found, goes.finds first, returned⟩
  · rintro systems moves - steps
    exact SharedStore.exists_last_call owner steps

/-- The bot of one dispatch is put in again while it is under way; the bot of the other is put in
only after that has looked for it. -/
theorem dispatches_on_shared_store_replaced :
    let bot : BotRecord := { id := .ofNat 1, name := "shop", token := "123:abc" }
    let late : BotRecord := { id := .ofNat 5, name := "late", token := "456:def" }
    let workflow : StoredWorkflow := ⟨.ofNat 2, bot.id, "sales", true, some "x"⟩
    let update : Update := ⟨1, some ⟨10, 555, none, some "hello"⟩, none⟩
    let jobs : Bool → DispatchJob := fun known =>
      ⟨false, fun _ _ => .textFirst, if known then bot.id else late.id, update⟩
    ∃ deeds system, (SharedStore.start jobs ⟨[bot], [workflow], []⟩).Goes deeds system ∧
      system.store.bots.map (·.name) = ["new shop", "late"] ∧ system.store.logs.length = 1 ∧
      Interleaves system.store.logs (fun owner => appendedLogs (ownEvents owner deeds)) ∧
      system.tasks false = .done (.error (.botNotFound late.id)) ∧
      ∃ summary, system.tasks true = .done (.ok summary) ∧
        LogsOf bot.id summary.runs (appendedLogs (ownEvents true deeds)) := by
  intro bot late workflow update jobs
  let start := SharedStore.start jobs ⟨[bot], [workflow], []⟩
  have goes := (SharedStore.Goes.here : start.Goes [] start)
    |>.snoc (@Step.call _ _ _ true _ _ _ _ rfl (.findBot _ _))
    |>.snoc (.insertBot _ { bot with name := "new shop" })
    |>.snoc (@Step.call _ _ _ false _ _ _ _ rfl (.findBot _ _))
    |>.snoc (@Step.call _ _ _ true _ _ _ _ rfl (.loadWorkflows _ _ _))
    |>.snoc (.insertBot _ late)
    |>.snoc (@Step.call _ _ _ true _ _ _ _ rfl (.openTransport _ _))
    |>.snoc (@Step.call _ _ _ true _ _ _ _ rfl (.run _ (.told (.ofUnixNanoseconds 1))))
    |>.snoc (@Step.call _ _ _ true _ _ _ _ rfl (.newLogId _ (.ofNat 9)))
    |>.snoc (@Step.call _ _ _ true _ _ _ _ rfl (.run _ (.told (.ofUnixNanoseconds 2))))
    |>.snoc (@Step.call _ _ _ true _ _ _ _ rfl (.appendLog _ _))
    |>.snoc (@Step.call _ _ _ true _ _ _ _ rfl (.run _ (.told (.ofUnixNanoseconds 3))))
    |>.snoc (@Step.call _ _ _ true _ _ _ _ rfl (.recordLastRun _ _ _))
  have shared := dispatches_on_shared_store jobs _ goes
  obtain ⟨written, logs, interleaves⟩ := shared.2.1
  obtain ⟨found, finds, returned⟩ := shared.1 true _ rfl
  cases returned with
  | handled bot logged =>
      refine ⟨_, _, goes, rfl, rfl, ?_, rfl, _, rfl, logged⟩
      rw [logs]
      exact interleaves

end Chatflow
