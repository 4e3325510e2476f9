import Chatflow.Proofs.Dispatch.Concurrency

/-!
# The last run of a bot

A dispatch that gets through an event reads the clock and has the time recorded, and the time that
reaches the store last counts.  Between the two calls another dispatch may get ahead, so that the
last run of a bot goes back unless the times reach the store in order.
-/

namespace Chatflow

open Program (Runs)
open SharedStore (Step)
open StoreChange (insertedBots lastRun?)

/-! ## Changes of a shared store -/

theorem Store.Serves.store_eq {store next : Store} {event : DispatchEvent}
    (serves : store.Serves event next) : next = store.applyAll event.call.change?.toList := by
  cases serves <;> rfl

variable {ι : Type}

namespace Deed

def change? : Deed ι → Option StoreChange
  | insertBot bot => some (.insertBot bot)
  | insertWorkflow workflow => some (.insertWorkflow workflow)
  | call _ event => event.call.change?

end Deed

/-- The time that is recorded for a run of the bot with the id. -/
def DispatchEvent.recordedTime? (id : BotId) (event : DispatchEvent) : Option Instant :=
  event.call.change?.bind (StoreChange.runOf? id)

/-- The times that are recorded for runs of the bot, as they reach the store. -/
def recordedTimes (id : BotId) (deeds : List (Deed ι)) : List Instant :=
  deeds.filterMap fun deed => deed.call?.bind fun call => call.2.recordedTime? id

theorem lastRun?_changes (id : BotId) (deeds : List (Deed ι)) :
    lastRun? id (deeds.filterMap Deed.change?) = (recordedTimes id deeds).getLast? := by
  rw [lastRun?, List.filterMap_filterMap, recordedTimes]
  congr 1
  refine List.filterMap_congr fun deed _ => ?_
  cases deed <;> rfl

theorem mem_insertedBots_changes {deeds : List (Deed ι)} {bot : BotRecord}
    (member : bot ∈ insertedBots (deeds.filterMap Deed.change?)) : .insertBot bot ∈ deeds := by
  obtain ⟨change, made, inserts⟩ := List.mem_filterMap.mp member
  obtain ⟨deed, done, changes⟩ := List.mem_filterMap.mp made
  cases deed with
  | insertBot other =>
      cases changes
      cases inserts
      exact done
  | insertWorkflow workflow =>
      cases changes
      cases inserts
  | call owner event =>
      obtain ⟨call, answer⟩ := event
      cases call <;> cases changes <;> cases inserts

variable [DecidableEq ι] {start system next : SharedStore ι} {deed : Deed ι}
  {deeds : List (Deed ι)} {owner : ι} {id botId : BotId}

namespace SharedStore

theorem Step.store_eq (step : system.Step deed next) :
    next.store = system.store.applyAll deed.change?.toList := by
  cases step with
  | insertBot bot => rfl
  | insertWorkflow workflow => rfl
  | call _ serves => exact serves.store_eq

theorem Goes.store_eq (goes : start.Goes deeds system) :
    system.store = start.store.applyAll (deeds.filterMap Deed.change?) := by
  induction goes with
  | here => rfl
  | @snoc deeds deed _ _ _ step ih =>
      rw [step.store_eq, ih, ← Store.applyAll_append, List.filterMap_append, List.filterMap_cons]
      cases deed.change? <;> rfl

end SharedStore

/-! ## Recording once -/

/-- Nothing was recorded so far, or the time that was read right before, and nothing since. -/
inductive RecordsTold (botId : BotId) : List DispatchEvent → Prop
  | unrecorded {events : List DispatchEvent}
      (never : ∀ event ∈ events, event.call.isRecording = false) : RecordsTold botId events
  | recorded {before : List DispatchEvent} {time : Instant} {answer : Except StoreError Unit}
      (once : ∀ event ∈ before, event.call.isRecording = false) :
      RecordsTold botId (before ++ [.ran (.told time), .recorded botId time answer])

theorem RecordsLast.told {canGenerate : Bool} {orders : Nat → Nat → VariableOrder}
    {update : Update} {events later : List DispatchEvent}
    {outcome : Except DispatchError DispatchSummary}
    (records : RecordsLast canGenerate orders botId update (events ++ later) outcome) :
    RecordsTold botId events := by
  generalize whole : events ++ later = history at records
  cases records with
  | unrecorded never =>
      subst whole
      exact .unrecorded fun event member => never event (List.mem_append_left _ member)
  | @recorded _ before _ time answer _ once =>
      rcases List.eq_nil_or_concat' later with rfl | ⟨first, last, rfl⟩
      · rw [← List.append_nil events, whole]
        exact .recorded once
      · -- The last call of the dispatch is still to come.
        rw [← List.append_assoc, List.append_cons before] at whole
        obtain ⟨shorter, -⟩ := List.append_inj' whole rfl
        refine .unrecorded fun event member => ?_
        have inside : event ∈ before ++ [.ran (.told time)] :=
          shorter ▸ List.mem_append_left _ member
        rcases List.mem_append.mp inside with earlier | told
        · exact once event earlier
        · rw [List.mem_singleton.mp told]
          rfl

theorem RecordsLast.exists_recorded {canGenerate : Bool} {orders : Nat → Nat → VariableOrder}
    {update : Update} {history : List DispatchEvent} {event : InboundEvent}
    {runs : List WorkflowRun} {outcome : Except DispatchError DispatchSummary}
    (records : RecordsLast canGenerate orders botId update history outcome)
    (ended : outcome = .ok ⟨some event, runs⟩) :
    ∃ before time, history = before ++ [.ran (.told time), .recorded botId time (.ok ())] := by
  cases records with
  | @recorded _ before _ time answer _ once =>
      cases answer with
      | ok done => exact ⟨before, time, rfl⟩
      | error failure => cases ended
  | unrecorded never incomplete => exact absurd ended (incomplete event runs)

theorem exists_runs {α : Type} (program : DispatchProgram α) :
    ∃ history value, Runs program history value := by
  induction program with
  | done value => exact ⟨[], value, .done value⟩
  | call request continuation ih =>
      obtain ⟨answer, -, -⟩ := Store.exists_serves {} request
      obtain ⟨history, value, runs⟩ := ih answer
      exact ⟨_, value, .call runs⟩

theorem SharedStore.Goes.recordsTold {jobs : ι → DispatchJob} {store : Store}
    (goes : (SharedStore.start jobs store).Goes deeds system) (owner : ι) :
    RecordsTold (jobs owner).botId (ownEvents owner deeds) := by
  obtain ⟨later, outcome, rest⟩ := exists_runs (system.tasks owner)
  have runs := (goes.leads owner).append_runs rest
  exact (runs_dispatch_iff.mp (runs : Runs (dispatch _ _ _ _).run _ _)).recordsLast.told

/-! ## The latest time -/

/-- The time is one of the times, and none of them lies after it. -/
structure IsLatest (time : Instant) (times : List Instant) : Prop where
  mem : time ∈ times
  isAtMost : ∀ other ∈ times, other.isAtMost time

theorem Instant.isAtMost_refl (time : Instant) : time.isAtMost time := by
  simp [isAtMost]

theorem isLatest_concat_iff {time : Instant} {times : List Instant} :
    IsLatest time (times ++ [time]) ↔ ∀ other ∈ times, other.isAtMost time := by
  constructor
  · intro latest other member
    exact latest.isAtMost other (List.mem_append_left _ member)
  · intro earlier
    refine ⟨List.mem_concat_self, List.forall_mem_append.mpr ⟨earlier, ?_⟩⟩
    exact List.forall_mem_singleton.mpr time.isAtMost_refl

/-- Dispatches go on beside each other, and the bot is not put into the store again.  Each dispatch
has at most one time recorded, which it read right before, and exactly one if it gets through an
event.  The times reach the store in any order, and the one that comes last is the bot's last run.
It is the latest of them if and only if none that came before it lies after it. -/
theorem last_run_is_recorded_last (jobs : ι → DispatchJob) {store : Store} {bot : BotRecord}
    (distinct : store.Distinct) (found : store.findBot id = some bot)
    (goes : (SharedStore.start jobs store).Goes deeds system)
    (kept : ∀ other, .insertBot other ∈ deeds → other.id ≠ id) :
    system.store.findBot id =
      some { bot with lastRunAt := (recordedTimes id deeds).getLast?.or bot.lastRunAt } ∧
    Interleaves (recordedTimes id deeds) (fun owner =>
      (ownEvents owner deeds).filterMap (DispatchEvent.recordedTime? id)) ∧
    (∀ owner, RecordsTold (jobs owner).botId (ownEvents owner deeds)) ∧
    (∀ owner event runs, system.tasks owner = .done (.ok ⟨some event, runs⟩) →
      ∃ before time, ownEvents owner deeds =
        before ++ [.ran (.told time), .recorded (jobs owner).botId time (.ok ())]) ∧
    ((∃ time, (system.store.findBot id).bind (·.lastRunAt) = some time ∧
        IsLatest time (recordedTimes id deeds)) ↔
      ∃ earlier time, recordedTimes id deeds = earlier ++ [time] ∧
        ∀ other ∈ earlier, other.isAtMost time) := by
  have held : system.store.findBot id =
      some { bot with lastRunAt := (recordedTimes id deeds).getLast?.or bot.lastRunAt } := by
    obtain rfl : bot.id = id := by simpa using List.find?_some found
    have after := distinct.findBot_applyAll fun other member =>
      kept other (mem_insertedBots_changes member)
    rw [goes.store_eq]
    refine after.trans ?_
    rw [found, Option.map_some, BotRecord.after, lastRun?_changes]
  refine ⟨held, interleaves_calls _ deeds, goes.recordsTold, ?once, ?latest⟩
  case once =>
    intro owner event runs ended
    have leads := goes.leads owner
    rw [ended] at leads
    have course := runs_dispatch_iff.mp (leads.runs : Runs (dispatch _ _ _ _).run _ _)
    exact course.recordsLast.exists_recorded rfl
  case latest =>
    rw [held, Option.bind_some]
    rcases List.eq_nil_or_concat' (recordedTimes id deeds) with none | ⟨earlier, last, split⟩
    · rw [none]
      refine iff_of_false ?_ ?_
      · rintro ⟨time, -, latest⟩
        exact List.not_mem_nil latest.mem
      · rintro ⟨earlier, time, split, -⟩
        exact List.append_ne_nil_of_right_ne_nil _ (List.cons_ne_nil _ _) split.symm
    · rw [split, List.getLast?_concat, Option.some_or]
      constructor
      · rintro ⟨time, same, latest⟩
        cases same
        exact ⟨earlier, last, rfl, isLatest_concat_iff.mp latest⟩
      · rintro ⟨others, time, same, atMost⟩
        obtain ⟨rfl, ends⟩ := List.append_inj' same rfl
        cases ends
        exact ⟨last, rfl, isLatest_concat_iff.mpr atMost⟩

/-- The time of one dispatch is in the store when it is over. -/
theorem last_run_is_recorded_last_once :
    let bot : BotRecord := { id := .ofNat 1, name := "shop", token := "123:abc" }
    let update : Update := ⟨1, some ⟨10, 555, none, some "hello"⟩, none⟩
    let jobs : Unit → DispatchJob := fun _ => ⟨false, fun _ _ => .textFirst, bot.id, update⟩
    let time := Instant.ofUnixNanoseconds 1
    ∃ deeds system, (SharedStore.start jobs ⟨[bot], [], []⟩).Goes deeds system ∧
      system.store.findBot bot.id = some { bot with lastRunAt := some time } ∧
      IsLatest time (recordedTimes bot.id deeds) := by
  intro bot update jobs time
  let store : Store := ⟨[bot], [], []⟩
  let start := SharedStore.start jobs store
  have goes := (SharedStore.Goes.here : start.Goes [] start)
    |>.snoc (@Step.call _ _ _ () _ _ _ _ rfl (.findBot _ _))
    |>.snoc (@Step.call _ _ _ () _ _ _ _ rfl (.loadWorkflows _ _ _))
    |>.snoc (@Step.call _ _ _ () _ _ _ _ rfl (.run _ (.told time)))
    |>.snoc (@Step.call _ _ _ () _ _ _ _ rfl (.recordLastRun _ _ _))
  have distinct : store.Distinct := ⟨List.nodup_singleton _, .nil⟩
  have found : store.findBot bot.id = some bot := by decide
  obtain ⟨held, -, -, -, latest⟩ :=
    last_run_is_recorded_last jobs distinct found goes (by simp)
  obtain ⟨last, same, isLatest⟩ := latest.mpr ⟨[], time, rfl, by simp⟩
  refine ⟨_, _, goes, held, ?_⟩
  rw [held] at same
  cases same
  exact isLatest

/-- Two dispatches for one bot read the clock, and the one that read it first is the last to reach
the store: the last run of the bot goes back. -/
theorem last_run_goes_back :
    let bot : BotRecord := { id := .ofNat 1, name := "shop", token := "123:abc" }
    let update : Update := ⟨1, some ⟨10, 555, none, some "hello"⟩, none⟩
    let jobs : Bool → DispatchJob := fun _ => ⟨false, fun _ _ => .textFirst, bot.id, update⟩
    let early := Instant.ofUnixNanoseconds 1
    let late := Instant.ofUnixNanoseconds 2
    ∃ deeds deed before system, (SharedStore.start jobs ⟨[bot], [], []⟩).Goes deeds before ∧
      before.Step deed system ∧ (∀ other, .insertBot other ∉ deeds ++ [deed]) ∧
      (∀ owner, ∃ summary, system.tasks owner = .done (.ok summary)) ∧
      recordedTimes bot.id (deeds ++ [deed]) = [late, early] ∧
      before.store.findBot bot.id = some { bot with lastRunAt := some late } ∧
      system.store.findBot bot.id = some { bot with lastRunAt := some early } ∧
      late.isAtMost early = false ∧ ¬ IsLatest early [late, early] := by
  intro bot update jobs early late
  let start := SharedStore.start jobs ⟨[bot], [], []⟩
  have goes := (SharedStore.Goes.here : start.Goes [] start)
    |>.snoc (@Step.call _ _ _ false _ _ _ _ rfl (.findBot _ _))
    |>.snoc (@Step.call _ _ _ false _ _ _ _ rfl (.loadWorkflows _ _ _))
    |>.snoc (@Step.call _ _ _ true _ _ _ _ rfl (.findBot _ _))
    |>.snoc (@Step.call _ _ _ true _ _ _ _ rfl (.loadWorkflows _ _ _))
    |>.snoc (@Step.call _ _ _ false _ _ _ _ rfl (.run _ (.told early)))
    |>.snoc (@Step.call _ _ _ true _ _ _ _ rfl (.run _ (.told late)))
    |>.snoc (@Step.call _ _ _ true _ _ _ _ rfl (.recordLastRun _ _ _))
  have after : late.isAtMost early = false := by decide
  refine ⟨_, _, _, _, goes, @Step.call _ _ _ false _ _ _ _ rfl (.recordLastRun _ _ _), by simp,
    ?_, rfl, rfl, rfl, after, fun latest => ?_⟩
  · rintro (_ | _) <;> exact ⟨_, rfl⟩
  · have atMost := latest.isAtMost late List.mem_cons_self
    rw [after] at atMost
    cases atMost

end Chatflow
