import Chatflow.Proofs.Dispatch.Failure
import Chatflow.Proofs.Store.History
import Mathlib.Data.Nat.Find
import Mathlib.Logic.Function.Basic

/-!
# Dispatches that share a store

Any number of dispatches are under way on one store, and bots and workflows are put into it in the
meantime.  Each call to the store is done at once, and the calls of the dispatches and the other
changes come in any order.
-/

namespace Chatflow

open Program (Leads)

/-! ## Calls on a store -/

def Store.Knows (store : Store) (id : BotId) : Prop := id ∈ store.bots.map (·.id)

/-- What the store answers to a call, and the store afterwards.  Every transport can be had;
whatever else is not for the store may be answered in any way. -/
inductive Store.Serves : Store → DispatchEvent → Store → Prop
  | findBot (store : Store) (id : BotId) : Serves store (.found id (.ok (store.findBot id))) store
  | loadWorkflows (store : Store) (botId : BotId) (enabledOnly : Bool) :
      Serves store ⟨.loadWorkflows botId enabledOnly,
        Except.ok (store.workflowsOf botId enabledOnly)⟩ store
  | appendLog (store : Store) (log : ExecutionLog) :
      Serves store (.logged log (.ok ())) (store.appendLog log)
  | recordLastRun (store : Store) (id : BotId) (time : Instant) :
      Serves store (.recorded id time ((store.recordLastRun id time).map fun _ => ()))
        (store.apply (.recordLastRun id time))
  | openTransport (store : Store) (token : String) : Serves store (.opened token (.ok ())) store
  | acknowledge (store : Store) (callbackId : String) (answer : Except TransportError Unit) :
      Serves store (.acknowledged callbackId answer) store
  | newLogId (store : Store) (id : LogId) : Serves store (.numbered id) store
  | run (store : Store) (event : RunEvent) : Serves store (.ran event) store

namespace Store

variable {store next : Store} {id : BotId} {event : DispatchEvent}

theorem knows_of_findBot {bot : BotRecord} (found : store.findBot id = some bot) :
    store.Knows id := by
  have same : bot.id = id := by simpa using List.find?_some found
  exact List.mem_map.mpr ⟨bot, List.mem_of_find?_eq_some found, same⟩

theorem Knows.insertBot (known : store.Knows id) (bot : BotRecord) :
    (store.insertBot bot).Knows id := by
  obtain ⟨other, member, same⟩ := List.mem_map.mp known
  change id ∈ (store.bots.filter (·.id != bot.id) ++ [bot]).map (·.id)
  rw [List.map_append, List.mem_append]
  by_cases replaced : bot.id = id
  · exact .inr (List.mem_singleton.mpr replaced.symm)
  · refine .inl (List.mem_map.mpr ⟨other, List.mem_filter.mpr ⟨member, ?_⟩, same⟩)
    rw [same]
    exact bne_iff_ne.mpr (Ne.symm replaced)

theorem touchBot_cases (id : BotId) (time : Instant) (bots : List BotRecord) :
    (id ∈ bots.map (·.id) ∧ ∃ touched, touchBot id time bots = some touched ∧
      touched.map (·.id) = bots.map (·.id)) ∨
    (id ∉ bots.map (·.id) ∧ touchBot id time bots = none) := by
  induction bots with
  | nil => exact .inr ⟨List.not_mem_nil, rfl⟩
  | cons bot bots ih =>
      rw [touchBot, List.map_cons, List.mem_cons]
      by_cases same : bot.id = id
      · exact .inl ⟨.inl same.symm, _, if_pos same, rfl⟩
      · rw [if_neg same]
        rcases ih with ⟨member, touched, done, ids⟩ | ⟨absent, failed⟩
        · refine .inl ⟨.inr member, bot :: touched, ?_, ?_⟩
          · rw [done, Option.map_some]
          · rw [List.map_cons, ids]
        · refine .inr ⟨?_, ?_⟩
          · rintro (first | later)
            · exact same first.symm
            · exact absent later
          · rw [failed, Option.map_none]

theorem Knows.apply_recordLastRun (known : store.Knows id) (other : BotId) (time : Instant) :
    (store.apply (.recordLastRun other time)).Knows id := by
  rw [apply, recordLastRun]
  rcases touchBot_cases other time store.bots with ⟨-, touched, done, ids⟩ | ⟨-, failed⟩
  · rw [done]
    change id ∈ touched.map (·.id)
    rw [ids]
    exact known
  · rw [failed]
    exact known

theorem Knows.recordLastRun_eq_ok (known : store.Knows id) (time : Instant) :
    (store.recordLastRun id time).map (fun _ => ()) = .ok () := by
  rw [recordLastRun]
  rcases touchBot_cases id time store.bots with ⟨-, touched, done, -⟩ | ⟨absent, -⟩
  · rw [done]
    rfl
  · exact absurd known absent

theorem Serves.knows (serves : store.Serves event next) (known : store.Knows id) :
    next.Knows id := by
  cases serves with
  | recordLastRun other time => exact known.apply_recordLastRun other time
  | appendLog log => exact known
  | findBot | loadWorkflows | openTransport | acknowledge | newLogId | run => exact known

theorem Serves.logs_eq (serves : store.Serves event next) :
    next.logs = store.logs ++ event.appended?.toList := by
  cases serves with
  | appendLog log => rfl
  | recordLastRun id time =>
      obtain ⟨bots, applied⟩ := store.exists_apply_recordLastRun_eq id time
      rw [applied]
      exact (List.append_nil _).symm
  | findBot | loadWorkflows | openTransport | acknowledge | newLogId | run =>
      exact (List.append_nil _).symm

theorem Serves.found_eq {answer : Except StoreError (Option BotRecord)}
    (serves : store.Serves (.found id answer) next) : answer = .ok (store.findBot id) := by
  cases serves
  rfl

theorem Serves.recorded_eq {time : Instant} {answer : Except StoreError Unit}
    (serves : store.Serves (.recorded id time answer) next) :
    answer = (store.recordLastRun id time).map fun _ => () := by
  cases serves
  rfl

theorem Serves.failure?_eq_some {botId : BotId} {error : DispatchError}
    (serves : store.Serves event next) (failing : event.failure? botId = some error) :
    (∃ id, event = .found id (.ok none)) ∨
      ∃ id time failure, event = .recorded id time (.error failure) := by
  cases serves with
  | findBot id =>
      cases found : store.findBot id with
      | none => exact .inl ⟨id, rfl⟩
      | some bot =>
          rw [found] at failing
          cases failing
  | recordLastRun id time =>
      cases recorded : store.recordLastRun id time with
      | ok stored =>
          rw [recorded] at failing
          cases failing
      | error failure => exact .inr ⟨id, time, failure, rfl⟩
  | loadWorkflows | appendLog | openTransport | acknowledge | newLogId | run => cases failing

theorem exists_serves (store : Store) (call : DispatchCall) :
    ∃ answer next, store.Serves ⟨call, answer⟩ next := by
  cases call with
  | findBot id => exact ⟨_, _, .findBot store id⟩
  | loadWorkflows botId enabledOnly => exact ⟨_, _, .loadWorkflows store botId enabledOnly⟩
  | appendLog log => exact ⟨_, _, .appendLog store log⟩
  | recordLastRun id time => exact ⟨_, _, .recordLastRun store id time⟩
  | openTransport token => exact ⟨_, _, .openTransport store token⟩
  | acknowledge callbackId => exact ⟨_, _, .acknowledge store callbackId (.ok ())⟩
  | newLogId => exact ⟨_, _, .newLogId store (RecordId.mk 0)⟩
  | run call =>
      cases call with
      | now => exact ⟨_, _, .run store (.told (Instant.ofUnixNanoseconds 0))⟩
      | send message => exact ⟨_, _, .run store (.sent message (.ok ⟨0⟩))⟩
      | generate request => exact ⟨_, _, .run store (.generated request (.ok ""))⟩

end Store

/-- The answers come from a store that keeps every bot which was found in it. -/
structure IsServed (history : List DispatchEvent) : Prop where
  served : ∀ event ∈ history, ∃ store next, Store.Serves store event next
  recorded : ∀ before id time failure after,
    history = before ++ .recorded id time (.error failure) :: after →
      ∀ bot, .found id (.ok (some bot)) ∉ before

/-! ## Dispatches side by side -/

/-- A store and, for each owner, what is left of a dispatch on it. -/
structure SharedStore (ι : Type) where
  store : Store
  tasks : ι → DispatchProgram (Except DispatchError DispatchSummary)

/-- What can happen to a shared store: a bot or a workflow is put into it, or a call of the owner's
dispatch is answered. -/
inductive Deed (ι : Type) where
  | insertBot (bot : BotRecord)
  | insertWorkflow (workflow : StoredWorkflow)
  | call (owner : ι) (event : DispatchEvent)

variable {ι : Type} [DecidableEq ι]

namespace Deed

def own? (owner : ι) : Deed ι → Option DispatchEvent
  | call other event => if other = owner then some event else none
  | insertBot _ | insertWorkflow _ => none

def call? : Deed ι → Option (ι × DispatchEvent)
  | call owner event => some (owner, event)
  | insertBot _ | insertWorkflow _ => none

def written? : Deed ι → Option (ι × ExecutionLog)
  | call owner event => event.appended?.map (owner, ·)
  | insertBot _ | insertWorkflow _ => none

theorem own?_eq_some_iff {owner : ι} {deed : Deed ι} {event : DispatchEvent} :
    deed.own? owner = some event ↔ deed = .call owner event := by
  cases deed with
  | insertBot bot | insertWorkflow workflow => exact iff_of_false nofun nofun
  | call other made => simp [own?]

end Deed

def ownEvents (owner : ι) (deeds : List (Deed ι)) : List DispatchEvent :=
  deeds.filterMap (Deed.own? owner)

namespace SharedStore

inductive Step : SharedStore ι → Deed ι → SharedStore ι → Prop
  | insertBot (system : SharedStore ι) (bot : BotRecord) :
      Step system (.insertBot bot) { system with store := system.store.insertBot bot }
  | insertWorkflow (system : SharedStore ι) (workflow : StoredWorkflow) :
      Step system (.insertWorkflow workflow)
        { system with store := system.store.insertWorkflow workflow }
  | call {system : SharedStore ι} {owner : ι} {request : DispatchCall}
      {continuation : request.Answer → DispatchProgram (Except DispatchError DispatchSummary)}
      {answer : request.Answer} {store : Store}
      (going : system.tasks owner = .call request continuation)
      (serves : system.store.Serves ⟨request, answer⟩ store) :
      Step system (.call owner ⟨request, answer⟩)
        ⟨store, Function.update system.tasks owner (continuation answer)⟩

inductive Goes (start : SharedStore ι) : List (Deed ι) → SharedStore ι → Prop
  | here : Goes start [] start
  | snoc {deeds : List (Deed ι)} {deed : Deed ι} {system next : SharedStore ι}
      (goes : Goes start deeds system) (step : system.Step deed next) :
      Goes start (deeds ++ [deed]) next

variable {start system next : SharedStore ι} {deed : Deed ι} {deeds : List (Deed ι)} {owner : ι}
  {id : BotId}

/-! ### One step -/

theorem Step.knows (step : system.Step deed next) (known : system.store.Knows id) :
    next.store.Knows id := by
  cases step with
  | insertBot bot => exact known.insertBot bot
  | insertWorkflow workflow => exact known
  | call _ serves => exact serves.knows known

theorem Step.logs_eq (step : system.Step deed next) :
    next.store.logs = system.store.logs ++ (deed.written?.map Prod.snd).toList := by
  cases step with
  | insertBot bot => exact (List.append_nil _).symm
  | insertWorkflow workflow => exact (List.append_nil _).symm
  | @call owner request _ answer _ _ serves =>
      rw [serves.logs_eq, Deed.written?, Option.map_map]
      cases DispatchEvent.appended? ⟨request, answer⟩ <;> rfl

theorem Step.tasks_eq (step : system.Step deed next) (foreign : deed.own? owner = none) :
    next.tasks owner = system.tasks owner := by
  cases step with
  | insertBot bot => rfl
  | insertWorkflow workflow => rfl
  | @call other _ _ _ _ _ _ =>
      have different : owner ≠ other := by
        rintro rfl
        simp [Deed.own?] at foreign
      exact Function.update_of_ne different _ _

theorem Step.exists_call (step : system.Step deed next) {event : DispatchEvent}
    (own : deed.own? owner = some event) :
    ∃ continuation, system.tasks owner = .call event.call continuation ∧
      next.tasks owner = continuation event.answer ∧ system.store.Serves event next.store := by
  cases Deed.own?_eq_some_iff.mp own
  cases step with
  | call going serves => exact ⟨_, going, Function.update_self _ _ _, serves⟩

/-- Whatever the dispatch of an owner has left to do, it can do the next of it. -/
theorem exists_step (system : SharedStore ι) (owner : ι) :
    (∃ outcome, system.tasks owner = .done outcome) ∨
      ∃ event next, system.Step (.call owner event) next := by
  cases going : system.tasks owner with
  | done outcome => exact .inl ⟨outcome, rfl⟩
  | call request continuation =>
      obtain ⟨answer, store, serves⟩ := system.store.exists_serves request
      exact .inr ⟨_, _, .call going serves⟩

/-! ### Steps without end -/

theorem tasks_eq_of_foreign {systems : Nat → SharedStore ι} {deeds : Nat → Deed ι}
    (steps : ∀ n, (systems n).Step (deeds n) (systems (n + 1))) {count : Nat}
    (foreign : ∀ n < count, (deeds n).own? owner = none) :
    (systems count).tasks owner = (systems 0).tasks owner := by
  induction count with
  | zero => rfl
  | succ count ih =>
      rw [(steps count).tasks_eq (foreign count count.lt_succ_self)]
      exact ih fun n less => foreign n (Nat.lt_succ_of_lt less)

theorem own?_eq_none_of_done {systems : Nat → SharedStore ι} {deeds : Nat → Deed ι}
    (steps : ∀ n, (systems n).Step (deeds n) (systems (n + 1)))
    {outcome : Except DispatchError DispatchSummary}
    (left : (systems 0).tasks owner = .done outcome) (n : Nat) :
    (deeds n).own? owner = none := by
  induction n using Nat.strongRecOn with
  | ind n ih =>
      have idle := (tasks_eq_of_foreign steps ih).trans left
      cases own : (deeds n).own? owner with
      | none => rfl
      | some event =>
          obtain ⟨_, going, -⟩ := (steps n).exists_call own
          cases going.symm.trans idle

/-- A dispatch makes only so many calls, however long the others go on. -/
theorem exists_last_call (owner : ι) {systems : Nat → SharedStore ι} {deeds : Nat → Deed ι}
    (steps : ∀ n, (systems n).Step (deeds n) (systems (n + 1))) :
    ∃ bound, ∀ n ≥ bound, (deeds n).own? owner = none := by
  classical
  generalize left : (systems 0).tasks owner = program
  induction program generalizing systems deeds with
  | done outcome => exact ⟨0, fun n _ => own?_eq_none_of_done steps left n⟩
  | call request continuation ih =>
      by_cases ever : ∃ n, (deeds n).own? owner ≠ none
      · -- After the first call less is left to do.
        let first := Nat.find ever
        have foreign : ∀ n < first, (deeds n).own? owner = none := fun n less =>
          not_not.mp (Nat.find_min ever less)
        have waiting := (tasks_eq_of_foreign steps foreign).trans left
        obtain ⟨event, own⟩ := Option.ne_none_iff_exists'.mp (Nat.find_spec ever)
        obtain ⟨_, going, reached, -⟩ := (steps first).exists_call own
        cases going.symm.trans waiting
        obtain ⟨bound, later⟩ := ih event.answer (fun n => steps (first + 1 + n)) reached
        refine ⟨first + 1 + bound, fun n late => ?_⟩
        obtain ⟨extra, rfl⟩ := Nat.exists_eq_add_of_le late
        rw [Nat.add_assoc]
        exact later (bound + extra) (Nat.le_add_right _ _)
      · exact ⟨0, fun n _ => not_not.mp (not_exists.mp ever n)⟩

/-! ### All steps -/

theorem ownEvents_concat (owner : ι) (deeds : List (Deed ι)) (deed : Deed ι) :
    ownEvents owner (deeds ++ [deed]) = ownEvents owner deeds ++ (deed.own? owner).toList := by
  rw [ownEvents, List.filterMap_append, List.filterMap_cons]
  cases deed.own? owner <;> rfl

/-- Each dispatch makes its own calls as if it were alone. -/
theorem Goes.leads (goes : start.Goes deeds system) (owner : ι) :
    Leads (start.tasks owner) (ownEvents owner deeds) (system.tasks owner) := by
  induction goes with
  | here => exact .here _
  | @snoc deeds deed _ _ _ step ih =>
      rw [ownEvents_concat]
      cases own : deed.own? owner with
      | none =>
          rw [step.tasks_eq own, Option.toList_none, List.append_nil]
          exact ih
      | some event =>
          obtain ⟨continuation, going, reached, -⟩ := step.exists_call own
          rw [going] at ih
          rw [reached]
          exact ih.snoc event.answer

theorem Goes.logs_eq (goes : start.Goes deeds system) :
    system.store.logs = start.store.logs ++ (deeds.filterMap Deed.written?).map Prod.snd := by
  induction goes with
  | here => exact (List.append_nil _).symm
  | @snoc deeds deed _ _ _ step ih =>
      rw [step.logs_eq, ih, List.append_assoc, List.filterMap_append, List.map_append,
        List.filterMap_cons]
      cases deed.written? <;> rfl

theorem Goes.logs_prefix (goes : start.Goes deeds system) :
    start.store.logs <+: system.store.logs := by
  rw [goes.logs_eq]
  exact List.prefix_append _ _

theorem Goes.knows_of_found (goes : start.Goes deeds system) {bot : BotRecord}
    (found : .found id (.ok (some bot)) ∈ ownEvents owner deeds) : system.store.Knows id := by
  induction goes with
  | here => cases found
  | @snoc deeds deed system _ _ step ih =>
      rw [ownEvents_concat, List.mem_append, Option.mem_toList] at found
      -- The bot may have been found earlier, and since then no step has removed it.
      rcases found with earlier | now
      · exact step.knows (ih earlier)
      · obtain ⟨-, -, -, serves⟩ := step.exists_call now
        exact serves.knows (Store.knows_of_findBot (Except.ok.inj serves.found_eq).symm)

theorem Goes.isServed (goes : start.Goes deeds system) (owner : ι) :
    IsServed (ownEvents owner deeds) := by
  induction goes with
  | here => exact ⟨nofun, by simp [ownEvents]⟩
  | @snoc deeds deed system _ goes step ih =>
      rw [ownEvents_concat]
      cases own : deed.own? owner with
      | none =>
          rw [Option.toList_none, List.append_nil]
          exact ih
      | some event =>
          obtain ⟨-, -, -, serves⟩ := step.exists_call own
          refine ⟨?_, fun before id time failure after split bot found => ?_⟩
          · exact List.forall_mem_append.mpr
              ⟨ih.served, List.forall_mem_singleton.mpr ⟨_, _, serves⟩⟩
          · -- Of the failures only one can be new, and the store knows the bot that was found.
            rcases List.eq_nil_or_concat' after with rfl | ⟨later, last, rfl⟩
            · obtain ⟨rfl, same⟩ := List.append_inj' split rfl
              cases same
              have known := goes.knows_of_found found
              cases serves.recorded_eq.trans (known.recordLastRun_eq_ok time)
            · rw [← List.cons_append, ← List.append_assoc] at split
              obtain ⟨earlier, -⟩ := List.append_inj' split rfl
              exact ih.recorded _ _ _ _ _ earlier bot found

end SharedStore

end Chatflow
