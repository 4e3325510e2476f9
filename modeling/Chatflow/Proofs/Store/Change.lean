import Chatflow.Store
import Mathlib.Data.List.Nodup

/-!
# Changes of stores

A store begins empty and changes by a few operations, which keep records of one kind apart by their
ids.
-/

namespace Chatflow

inductive StoreChange where
  | insertBot (bot : BotRecord)
  | insertWorkflow (workflow : StoredWorkflow)
  | appendLog (log : ExecutionLog)
  | recordLastRun (id : BotId) (time : Instant)
deriving DecidableEq

/-- The bot after a run of the bot with the id. -/
def BotRecord.touched (id : BotId) (time : Instant) (bot : BotRecord) : BotRecord :=
  if bot.id = id then { bot with lastRunAt := some time } else bot

theorem BotRecord.id_touched (id : BotId) (time : Instant) (bot : BotRecord) :
    (bot.touched id time).id = bot.id := by
  rw [touched]
  split <;> rfl

theorem BotRecord.map_id_touched (id : BotId) (time : Instant) (bots : List BotRecord) :
    (bots.map (·.touched id time)).map (·.id) = bots.map (·.id) := by
  rw [List.map_map]
  exact List.map_congr_left fun bot _ => bot.id_touched id time

theorem BotRecord.touched_of_ne {id : BotId} {bot : BotRecord} (other : bot.id ≠ id)
    (time : Instant) : bot.touched id time = bot := if_neg other

namespace Store

/-- The store after a change; a change that is refused leaves it as it is. -/
def apply (store : Store) : StoreChange → Store
  | .insertBot bot => store.insertBot bot
  | .insertWorkflow workflow => store.insertWorkflow workflow
  | .appendLog log => store.appendLog log
  | .recordLastRun id time => (store.recordLastRun id time).toOption.getD store

def applyAll (store : Store) (changes : List StoreChange) : Store := changes.foldl apply store

/-- Some changes lead from an empty store to this one. -/
def Reachable (store : Store) : Prop := ∃ changes, store = applyAll {} changes

/-- No two bots and no two workflows have the same id. -/
structure Distinct (store : Store) : Prop where
  bots : (store.bots.map (·.id)).Nodup
  workflows : (store.workflows.map (·.id)).Nodup

variable {store : Store} {bot : BotRecord} {id : BotId} {time : Instant}

/-! ## Ids -/

theorem map_id_putWorkflow (workflow : StoredWorkflow) (workflows : List StoredWorkflow) :
    (putWorkflow workflow workflows).map (·.id) =
      if workflow.id ∈ workflows.map (·.id) then workflows.map (·.id)
      else workflows.map (·.id) ++ [workflow.id] := by
  induction workflows with
  | nil => rfl
  | cons first workflows ih =>
      rw [putWorkflow]
      by_cases same : first.id = workflow.id
      · simp [same]
      · rw [if_neg same, List.map_cons, ih, List.map_cons]
        simp only [List.mem_cons, Ne.symm same, false_or]
        split <;> rfl

theorem touchBot_eq (id : BotId) (time : Instant) {bots : List BotRecord}
    (distinct : (bots.map (·.id)).Nodup) :
    touchBot id time bots =
      if id ∈ bots.map (·.id) then some (bots.map (·.touched id time)) else none := by
  induction bots with
  | nil => rfl
  | cons first bots ih =>
      rw [List.map_cons, List.nodup_cons] at distinct
      obtain ⟨fresh, distinct⟩ := distinct
      rw [touchBot, List.map_cons, List.map_cons]
      by_cases same : first.id = id
      · subst same
        -- No other bot has this id, so that the others stay as they are.
        have others : bots.map (·.touched first.id time) = bots := by
          refine (List.map_congr_left fun bot member => ?_).trans (List.map_id bots)
          have other : bot.id ≠ first.id := fun same =>
            fresh (same ▸ List.mem_map_of_mem member)
          exact BotRecord.touched_of_ne other time
        rw [if_pos rfl, if_pos List.mem_cons_self, others, BotRecord.touched, if_pos rfl]
      · rw [if_neg same, ih distinct, BotRecord.touched_of_ne same]
        simp only [List.mem_cons, Ne.symm same, false_or]
        split <;> rfl

/-! ## Records apart -/

theorem distinct_empty : Distinct {} := ⟨.nil, .nil⟩

theorem Distinct.apply (distinct : store.Distinct) (change : StoreChange) :
    (store.apply change).Distinct := by
  cases change with
  | insertBot bot =>
      refine ⟨?_, distinct.workflows⟩
      change ((store.bots.filter (·.id != bot.id) ++ [bot]).map (·.id)).Nodup
      rw [List.map_append, List.nodup_append']
      refine ⟨distinct.bots.sublist (List.filter_sublist.map _), List.nodup_singleton _, ?_⟩
      simp
  | insertWorkflow workflow =>
      refine ⟨distinct.bots, ?_⟩
      change ((putWorkflow workflow store.workflows).map (·.id)).Nodup
      rw [map_id_putWorkflow]
      split
      · exact distinct.workflows
      · rename_i fresh
        rw [List.nodup_append']
        exact ⟨distinct.workflows, List.nodup_singleton _, by simpa using fresh⟩
  | appendLog log => exact ⟨distinct.bots, distinct.workflows⟩
  | recordLastRun id time =>
      rw [Store.apply, recordLastRun, touchBot_eq id time distinct.bots]
      by_cases known : id ∈ store.bots.map (·.id)
      · rw [if_pos known]
        refine ⟨?_, distinct.workflows⟩
        change ((store.bots.map (·.touched id time)).map (·.id)).Nodup
        rw [BotRecord.map_id_touched]
        exact distinct.bots
      · rw [if_neg known]
        exact distinct

theorem Distinct.applyAll (distinct : store.Distinct) (changes : List StoreChange) :
    (store.applyAll changes).Distinct := by
  induction changes generalizing store with
  | nil => exact distinct
  | cons change changes ih => exact ih (distinct.apply change)

theorem Reachable.distinct (reachable : store.Reachable) : store.Distinct := by
  obtain ⟨changes, rfl⟩ := reachable
  exact distinct_empty.applyAll changes

theorem Distinct.findBot_eq (distinct : store.Distinct) (known : bot ∈ store.bots) :
    store.findBot bot.id = some bot := by
  cases found : store.findBot bot.id with
  | none =>
      have absent := List.find?_eq_none.mp found bot known
      simp at absent
  | some other =>
      have same : other.id = bot.id := by simpa using List.find?_some found
      rw [List.inj_on_of_nodup_map distinct.bots (List.mem_of_find?_eq_some found) known same]

theorem Distinct.recordLastRun_eq (distinct : store.Distinct) (known : bot ∈ store.bots)
    (time : Instant) :
    store.recordLastRun bot.id time =
      .ok { store with bots := store.bots.map (·.touched bot.id time) } := by
  rw [recordLastRun, touchBot_eq bot.id time distinct.bots, if_pos (List.mem_map_of_mem known)]

/-! ## Changes one after the other -/

theorem applyAll_append (store : Store) (first second : List StoreChange) :
    store.applyAll (first ++ second) = (store.applyAll first).applyAll second :=
  List.foldl_append

theorem applyAll_appendLog (store : Store) (logs : List ExecutionLog) :
    store.applyAll (logs.map .appendLog) = { store with logs := store.logs ++ logs } := by
  induction logs generalizing store with
  | nil => simp [Store.applyAll]
  | cons log logs ih =>
      refine (ih (store.appendLog log)).trans ?_
      simp [appendLog]

end Store

end Chatflow
