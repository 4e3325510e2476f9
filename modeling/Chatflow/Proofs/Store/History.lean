import Chatflow.Proofs.FirstOccurrence
import Chatflow.Proofs.Store.Change

/-!
# What stores remember

All that can be asked of a store follows from the changes made to it: of each bot and of each
workflow the record inserted last counts, and of a bot also the last run recorded after that.
-/

namespace Chatflow

/-! ## What changes say -/

namespace StoreChange

def bot? : StoreChange → Option BotRecord
  | insertBot bot => some bot
  | _ => none

def workflow? : StoreChange → Option StoredWorkflow
  | insertWorkflow workflow => some workflow
  | _ => none

def log? : StoreChange → Option ExecutionLog
  | appendLog log => some log
  | _ => none

/-- The time that is recorded for a run of the bot with the id. -/
def runOf? (id : BotId) : StoreChange → Option Instant
  | recordLastRun other time => if other = id then some time else none
  | _ => none

def insertedBots (changes : List StoreChange) : List BotRecord := changes.filterMap bot?

def insertedWorkflows (changes : List StoreChange) : List StoredWorkflow :=
  changes.filterMap workflow?

def appendedLogs (changes : List StoreChange) : List ExecutionLog := changes.filterMap log?

/-- The time recorded last for a run of the bot with the id. -/
def lastRun? (id : BotId) (changes : List StoreChange) : Option Instant :=
  (changes.filterMap (runOf? id)).getLast?

theorem insertedBots_cons (change : StoreChange) (changes : List StoreChange) :
    insertedBots (change :: changes) = insertedBots [change] ++ insertedBots changes :=
  List.filterMap_append (l := [change])

theorem lastRun?_cons (id : BotId) (change : StoreChange) (changes : List StoreChange) :
    lastRun? id (change :: changes) = (lastRun? id changes).or (change.runOf? id) := by
  rw [lastRun?, List.filterMap_cons]
  cases change.runOf? id with
  | none => exact Option.or_none.symm
  | some time =>
      rw [List.getLast?_cons, lastRun?]
      cases (changes.filterMap (runOf? id)).getLast? <;> rfl

end StoreChange

open StoreChange (insertedBots insertedWorkflows appendedLogs lastRun?)

/-- The bot after changes that do not insert it again. -/
def BotRecord.after (changes : List StoreChange) (bot : BotRecord) : BotRecord :=
  { bot with lastRunAt := (lastRun? bot.id changes).or bot.lastRunAt }

theorem BotRecord.after_cons (change : StoreChange) (changes : List StoreChange)
    (bot : BotRecord) : bot.after (change :: changes) = (bot.after [change]).after changes := by
  simp only [after, StoreChange.lastRun?_cons, Option.or_assoc]
  rfl

theorem BotRecord.touched_eq_after (run : BotId) (time : Instant) (bot : BotRecord) :
    bot.touched run time = bot.after [.recordLastRun run time] := by
  by_cases same : run = bot.id
  · simp [touched, after, lastRun?, StoreChange.runOf?, same]
  · simp [touched, after, lastRun?, StoreChange.runOf?, same, Ne.symm same]

/-- A store answers as the changes say that led to it from an empty store. -/
structure Store.Remembers (store : Store) (changes : List StoreChange) : Prop where
  /-- A bot is found as it was inserted last, with the last run recorded since then. -/
  findBot_eq_some_iff : ∀ id record, store.findBot id = some record ↔
    ∃ before bot later, changes = before ++ .insertBot bot :: later ∧ bot.id = id ∧
      (∀ other ∈ insertedBots later, other.id ≠ id) ∧ record = bot.after later
  findBot_eq_none_iff : ∀ id,
    store.findBot id = none ↔ ∀ bot ∈ insertedBots changes, bot.id ≠ id
  /-- A workflow is listed as it was inserted last, for the bot that it then had. -/
  mem_workflowsOf_iff : ∀ botId enabledOnly workflow,
    workflow ∈ store.workflowsOf botId enabledOnly ↔
      (∃ before later, insertedWorkflows changes = before ++ workflow :: later ∧
        ∀ other ∈ later, other.id ≠ workflow.id) ∧
      workflow.botId = botId ∧ (enabledOnly = true → workflow.enabled = true)
  /-- Each id is listed once, and the ids in the order in which they were first inserted. -/
  inFirstOrder_workflowsOf : ∀ botId enabledOnly,
    InFirstOrder ((insertedWorkflows changes).map (·.id))
      ((store.workflowsOf botId enabledOnly).map (·.id))
  logs_eq : store.logs = appendedLogs changes
  recordLastRun_of_inserted : ∀ id time, (∃ bot ∈ insertedBots changes, bot.id = id) →
    store.recordLastRun id time = .ok (store.apply (.recordLastRun id time))
  recordLastRun_of_never : ∀ id time, (∀ bot ∈ insertedBots changes, bot.id ≠ id) →
    store.recordLastRun id time = .error (.notFound "bot" id.display) ∧
      store.apply (.recordLastRun id time) = store

/-- Of the values that pass a test, one comes last. -/
theorem exists_last_of_exists {α : Type} (test : α → Prop) {values : List α}
    (passes : ∃ value ∈ values, test value) :
    ∃ before value later, values = before ++ value :: later ∧ test value ∧
      ∀ other ∈ later, ¬ test other := by
  induction values with
  | nil => simp at passes
  | cons first values ih =>
      by_cases again : ∃ value ∈ values, test value
      · obtain ⟨before, value, later, rfl, passed, others⟩ := ih again
        exact ⟨first :: before, value, later, rfl, passed, others⟩
      · obtain ⟨value, member, passed⟩ := passes
        obtain rfl | inside := List.mem_cons.mp member
        · exact ⟨[], value, values, rfl, passed, fun other inside passed =>
            again ⟨other, inside, passed⟩⟩
        · exact absurd ⟨value, inside, passed⟩ again

namespace Store

variable {store : Store} {id : BotId} {change : StoreChange} {later : List StoreChange}

/-! ## Bots -/

theorem findBot_insertBot (store : Store) (bot : BotRecord) (id : BotId) :
    (store.insertBot bot).findBot id = if bot.id = id then some bot else store.findBot id := by
  rw [insertBot, findBot, List.find?_append]
  by_cases same : bot.id = id
  · have gone : (store.bots.filter (·.id != bot.id)).find? (·.id == id) = none := by
      simp [List.find?_eq_none, same]
    rw [gone]
    simp [same]
  · have kept : (store.bots.filter (·.id != bot.id)).find? (·.id == id) = store.findBot id := by
      rw [List.find?_filter, findBot]
      congr 1
      funext other
      by_cases found : other.id = id
      · simp [found, Ne.symm same]
      · simp [found]
    rw [kept]
    simp [same]

theorem Distinct.findBot_recordLastRun (distinct : store.Distinct) (run : BotId) (time : Instant)
    (id : BotId) :
    (store.apply (.recordLastRun run time)).findBot id =
      (store.findBot id).map (·.touched run time) := by
  rw [Store.apply, recordLastRun, touchBot_eq run time distinct.bots]
  by_cases known : run ∈ store.bots.map (·.id)
  · rw [if_pos known]
    change (store.bots.map (·.touched run time)).find? (·.id == id) = _
    rw [List.find?_map]
    congr 2
    funext bot
    exact congrArg (· == id) (bot.id_touched run time)
  · rw [if_neg known]
    change store.findBot id = _
    cases found : store.findBot id with
    | none => rfl
    | some bot =>
        have other : bot.id ≠ run := fun same =>
          known (same ▸ List.mem_map_of_mem (List.mem_of_find?_eq_some found))
        rw [Option.map_some, BotRecord.touched_of_ne other]

/-- A change that does not insert the bot leaves it as it is but for a run of it. -/
theorem Distinct.findBot_apply (distinct : store.Distinct)
    (never : ∀ bot ∈ insertedBots [change], bot.id ≠ id) :
    (store.apply change).findBot id = (store.findBot id).map (·.after [change]) := by
  cases change with
  | insertBot bot =>
      have other : bot.id ≠ id := never bot List.mem_cons_self
      refine (findBot_insertBot store bot id).trans ?_
      rw [if_neg other]
      cases store.findBot id <;> rfl
  | insertWorkflow workflow =>
      change store.findBot id = _
      cases store.findBot id <;> rfl
  | appendLog log =>
      change store.findBot id = _
      cases store.findBot id <;> rfl
  | recordLastRun run time =>
      rw [distinct.findBot_recordLastRun run time id]
      congr 1
      funext bot
      exact bot.touched_eq_after run time

theorem Distinct.findBot_applyAll (distinct : store.Distinct)
    (never : ∀ bot ∈ insertedBots later, bot.id ≠ id) :
    (store.applyAll later).findBot id = (store.findBot id).map (·.after later) := by
  induction later generalizing store with
  | nil =>
      change store.findBot id = _
      cases store.findBot id <;> rfl
  | cons change later ih =>
      rw [StoreChange.insertedBots_cons] at never
      have now := distinct.findBot_apply fun bot member =>
        never bot (List.mem_append_left _ member)
      have rest := ih (distinct.apply change) fun bot member =>
        never bot (List.mem_append_right _ member)
      refine rest.trans ?_
      rw [now, Option.map_map]
      congr 1
      funext bot
      exact (bot.after_cons change later).symm

theorem findBot_split (before later : List StoreChange) (bot : BotRecord)
    (never : ∀ other ∈ insertedBots later, other.id ≠ bot.id) :
    (applyAll {} (before ++ .insertBot bot :: later)).findBot bot.id = some (bot.after later) := by
  have distinct : (applyAll {} before).Distinct := distinct_empty.applyAll before
  rw [applyAll_append]
  change (((applyAll {} before).apply (.insertBot bot)).applyAll later).findBot bot.id = _
  rw [(distinct.apply (.insertBot bot)).findBot_applyAll never]
  change ((applyAll {} before).insertBot bot |>.findBot bot.id).map _ = _
  rw [findBot_insertBot, if_pos rfl, Option.map_some]

theorem exists_last_insertBot {changes : List StoreChange}
    (inserted : ∃ bot ∈ insertedBots changes, bot.id = id) :
    ∃ before bot later, changes = before ++ .insertBot bot :: later ∧ bot.id = id ∧
      ∀ other ∈ insertedBots later, other.id ≠ id := by
  obtain ⟨bot, member, same⟩ := inserted
  obtain ⟨change, made, inserts⟩ := List.mem_filterMap.mp member
  obtain ⟨before, last, later, split, ⟨bot, inserts, same⟩, others⟩ := exists_last_of_exists
    (fun change => ∃ bot, change.bot? = some bot ∧ bot.id = id)
    ⟨change, made, bot, inserts, same⟩
  cases last with
  | insertBot last =>
      obtain rfl : last = bot := Option.some.inj inserts
      refine ⟨before, last, later, split, same, fun other member same => ?_⟩
      obtain ⟨change, made, inserts⟩ := List.mem_filterMap.mp member
      exact others change made ⟨other, inserts, same⟩
  | _ => cases inserts

theorem findBot_applyAll_eq_none_iff (changes : List StoreChange) (id : BotId) :
    (applyAll {} changes).findBot id = none ↔ ∀ bot ∈ insertedBots changes, bot.id ≠ id := by
  constructor
  · intro absent bot member same
    obtain ⟨before, last, later, rfl, rfl, never⟩ := exists_last_insertBot ⟨bot, member, same⟩
    rw [findBot_split before later last never] at absent
    cases absent
  · intro never
    exact distinct_empty.findBot_applyAll never

theorem findBot_applyAll_eq_some_iff (changes : List StoreChange) (id : BotId)
    (record : BotRecord) :
    (applyAll {} changes).findBot id = some record ↔
      ∃ before bot later, changes = before ++ .insertBot bot :: later ∧ bot.id = id ∧
        (∀ other ∈ insertedBots later, other.id ≠ id) ∧ record = bot.after later := by
  constructor
  · intro found
    have inserted : ∃ bot ∈ insertedBots changes, bot.id = id := by
      by_contra never
      have absent := (findBot_applyAll_eq_none_iff changes id).mpr fun bot member same =>
        never ⟨bot, member, same⟩
      rw [absent] at found
      cases found
    obtain ⟨before, bot, later, rfl, rfl, never⟩ := exists_last_insertBot inserted
    rw [findBot_split before later bot never] at found
    exact ⟨before, bot, later, rfl, rfl, never, (Option.some.inj found).symm⟩
  · rintro ⟨before, bot, later, rfl, rfl, never, rfl⟩
    exact findBot_split before later bot never

/-! ## Workflows and logs -/

/-- The workflows after more of them are inserted one after the other. -/
def putAll (workflows inserted : List StoredWorkflow) : List StoredWorkflow :=
  inserted.foldl (fun workflows workflow => putWorkflow workflow workflows) workflows

theorem putAll_append (workflows first second : List StoredWorkflow) :
    putAll workflows (first ++ second) = putAll (putAll workflows first) second :=
  List.foldl_append

/-- A recorded run changes nothing but bots. -/
theorem exists_apply_recordLastRun_eq (store : Store) (id : BotId) (time : Instant) :
    ∃ bots, store.apply (.recordLastRun id time) = { store with bots } := by
  rw [apply, recordLastRun]
  cases touchBot id time store.bots with
  | none => exact ⟨store.bots, rfl⟩
  | some bots => exact ⟨bots, rfl⟩

theorem workflows_applyAll (store : Store) (changes : List StoreChange) :
    (store.applyAll changes).workflows =
      putAll store.workflows (insertedWorkflows changes) := by
  induction changes generalizing store with
  | nil => rfl
  | cons change changes ih =>
      refine (ih (store.apply change)).trans ?_
      cases change with
      | recordLastRun id time =>
          obtain ⟨bots, applied⟩ := store.exists_apply_recordLastRun_eq id time
          rw [applied]
          rfl
      | _ => rfl

theorem logs_applyAll (store : Store) (changes : List StoreChange) :
    (store.applyAll changes).logs = store.logs ++ appendedLogs changes := by
  induction changes generalizing store with
  | nil => exact (List.append_nil _).symm
  | cons change changes ih =>
      refine (ih (store.apply change)).trans ?_
      cases change with
      | appendLog log => exact List.append_assoc store.logs [log] _
      | recordLastRun id time =>
          obtain ⟨bots, applied⟩ := store.exists_apply_recordLastRun_eq id time
          rw [applied]
          rfl
      | _ => rfl

theorem map_id_putAll (inserted : List StoredWorkflow) :
    (putAll [] inserted).map (·.id) = (inserted.map (·.id)).eraseDups := by
  induction inserted using List.reverseRecOn with
  | nil => rfl
  | append_singleton inserted workflow ih =>
      rw [putAll_append, List.map_append]
      change (putWorkflow workflow (putAll [] inserted)).map (·.id) =
        (inserted.map (·.id) ++ [workflow.id]).eraseDups
      rw [map_id_putWorkflow, ih, eraseDups_concat]
      simp only [List.mem_eraseDups]

theorem mem_putWorkflow (workflow : StoredWorkflow) (workflows : List StoredWorkflow) :
    workflow ∈ putWorkflow workflow workflows := by
  induction workflows with
  | nil => exact List.mem_singleton_self _
  | cons first workflows ih =>
      rw [putWorkflow]
      split
      · exact List.mem_cons_self
      · exact List.mem_cons_of_mem _ ih

theorem mem_putWorkflow_of_ne {workflow other : StoredWorkflow} {workflows : List StoredWorkflow}
    (member : other ∈ workflows) (ne : workflow.id ≠ other.id) :
    other ∈ putWorkflow workflow workflows := by
  induction workflows with
  | nil => cases member
  | cons first workflows ih =>
      rw [putWorkflow]
      obtain rfl | inside := List.mem_cons.mp member
      · rw [if_neg (Ne.symm ne)]
        exact List.mem_cons_self
      · split
        · exact List.mem_cons_of_mem _ inside
        · exact List.mem_cons_of_mem _ (ih inside)

theorem mem_putAll_of_never {workflow : StoredWorkflow} {workflows inserted : List StoredWorkflow}
    (member : workflow ∈ workflows) (never : ∀ other ∈ inserted, other.id ≠ workflow.id) :
    workflow ∈ putAll workflows inserted := by
  induction inserted generalizing workflows with
  | nil => exact member
  | cons first inserted ih =>
      obtain ⟨other, others⟩ := List.forall_mem_cons.mp never
      exact ih (mem_putWorkflow_of_ne member other) others

theorem mem_putAll_iff (inserted : List StoredWorkflow) (workflow : StoredWorkflow) :
    workflow ∈ putAll [] inserted ↔
      ∃ before later, inserted = before ++ workflow :: later ∧
        ∀ other ∈ later, other.id ≠ workflow.id := by
  have last : ∀ before last later, inserted = before ++ last :: later →
      (∀ other ∈ later, other.id ≠ last.id) → last ∈ putAll [] inserted := by
    rintro before last later rfl others
    rw [putAll_append]
    change last ∈ putAll (putWorkflow last (putAll [] before)) later
    exact mem_putAll_of_never (mem_putWorkflow last _) others
  constructor
  · intro member
    have known : workflow.id ∈ inserted.map (·.id) := by
      rw [← List.mem_eraseDups, ← map_id_putAll]
      exact List.mem_map_of_mem member
    obtain ⟨before, other, later, split, same, others⟩ :=
      exists_last_of_exists _ (List.mem_map.mp known)
    -- The ids are apart, so that the workflow is the one inserted last for its id.
    have distinct : ((putAll [] inserted).map (·.id)).Nodup := by
      rw [map_id_putAll]
      exact (inFirstOrder_eraseDups _).nodup
    obtain rfl : other = workflow := List.inj_on_of_nodup_map distinct
      (last before other later split (same.symm ▸ others)) member same
    exact ⟨before, later, split, others⟩
  · rintro ⟨before, later, split, others⟩
    exact last before workflow later split others

/-! ## All answers -/

theorem mem_workflowsOf (store : Store) (botId : BotId) (enabledOnly : Bool)
    (workflow : StoredWorkflow) :
    workflow ∈ store.workflowsOf botId enabledOnly ↔ workflow ∈ store.workflows ∧
      workflow.botId = botId ∧ (enabledOnly = true → workflow.enabled = true) := by
  rw [workflowsOf, List.mem_filter]
  cases enabledOnly <;> simp

theorem Distinct.recordLastRun_of_found {bot : BotRecord} (distinct : store.Distinct)
    (found : store.findBot id = some bot) (time : Instant) :
    store.recordLastRun id time = .ok (store.apply (.recordLastRun id time)) := by
  obtain rfl : bot.id = id := by simpa using List.find?_some found
  rw [Store.apply, distinct.recordLastRun_eq (List.mem_of_find?_eq_some found) time]
  rfl

theorem Distinct.recordLastRun_of_absent (distinct : store.Distinct)
    (absent : store.findBot id = none) (time : Instant) :
    store.recordLastRun id time = .error (.notFound "bot" id.display) := by
  have unknown : id ∉ store.bots.map (·.id) := by
    simpa [findBot] using absent
  rw [recordLastRun, touchBot_eq id time distinct.bots, if_neg unknown]

theorem remembers_applyAll (changes : List StoreChange) :
    (applyAll {} changes).Remembers changes := by
  have distinct : (applyAll {} changes).Distinct := distinct_empty.applyAll changes
  have listed : (applyAll {} changes).workflows = putAll [] (insertedWorkflows changes) :=
    workflows_applyAll {} changes
  constructor
  case findBot_eq_some_iff => exact findBot_applyAll_eq_some_iff changes
  case findBot_eq_none_iff => exact findBot_applyAll_eq_none_iff changes
  case mem_workflowsOf_iff =>
    intro botId enabledOnly workflow
    rw [mem_workflowsOf, listed, mem_putAll_iff]
  case inFirstOrder_workflowsOf =>
    intro botId enabledOnly
    refine InFirstOrder.sublist ?_ (List.filter_sublist.map _)
    rw [listed, map_id_putAll]
    exact inFirstOrder_eraseDups _
  case logs_eq => exact logs_applyAll {} changes
  case recordLastRun_of_inserted =>
    rintro id time ⟨bot, member, same⟩
    cases found : (applyAll {} changes).findBot id with
    | none => exact absurd same ((findBot_applyAll_eq_none_iff changes id).mp found bot member)
    | some _ => exact distinct.recordLastRun_of_found found time
  case recordLastRun_of_never =>
    intro id time never
    have absent := (findBot_applyAll_eq_none_iff changes id).mpr never
    have refused := distinct.recordLastRun_of_absent absent time
    refine ⟨refused, ?_⟩
    rw [Store.apply, refused]
    rfl

end Store

end Chatflow
