import Chatflow.Proofs.Run.Course
import Chatflow.Proofs.Walk.Reference
import Mathlib.Logic.ExistsUnique

/-!
# Outcomes of runs

The result of a run falls in exactly one of three cases, and tells of a failure if and only if
something failed on the way.  No result has more than 101 steps.
-/

namespace Chatflow

open Program (Runs runs_pure_iff)

/-! ## What goes wrong on a walk -/

/-- The texts of what went wrong in the events and visits of a run. -/
inductive RunFailure (canGenerate : Bool) (visits : List Visit) (history : List RunEvent) :
    String → Prop
  | send {message : OutgoingMessage} {failure : TransportError}
      (member : .sent message (.error failure) ∈ history) :
      RunFailure canGenerate visits history failure.message
  | generation {request : GenerationRequest} {failure : GenerationError}
      (member : .generated request (.error failure) ∈ history) :
      RunFailure canGenerate visits history failure.message
  | noKey {visit : Visit} {agent : Agent} (member : visit ∈ visits)
      (kind : visit.node.kind = .agent agent) (can : canGenerate = true)
      (keyless : agent.apiKey = none) :
      RunFailure canGenerate visits history
        ("invalid generation config: " ++ (agent.provider.name ++ " agent has no apiKey"))

variable {canGenerate : Bool} {order : VariableOrder} {orders : Nat → VariableOrder}
  {context : RunContext} {visit : Visit} {visits : List Visit} {text : String}

namespace Visit.Allowed

theorem failure_of_sent_error {message : OutgoingMessage} {failure : TransportError}
    (allowed : visit.Allowed canGenerate order context)
    (member : .sent message (.error failure) ∈ visit.events) :
    visit.failure = some (.delivery visit.node.id failure) := by
  cases allowed <;> simp at member
  all_goals
    obtain ⟨-, rfl⟩ := member
    rfl

theorem failure_of_generated_error {request : GenerationRequest} {failure : GenerationError}
    (allowed : visit.Allowed canGenerate order context)
    (member : .generated request (.error failure) ∈ visit.events) :
    visit.failure = some (.generation visit.node.id failure) := by
  cases allowed <;> simp at member
  obtain ⟨-, rfl⟩ := member
  rfl

theorem failure_of_noKey {agent : Agent} (allowed : visit.Allowed canGenerate order context)
    (kind : visit.node.kind = .agent agent) (can : canGenerate = true)
    (keyless : agent.apiKey = none) :
    visit.failure = some (.generation visit.node.id
      (.invalidConfig (agent.provider.name ++ " agent has no apiKey"))) := by
  cases allowed with
  | noKey other _ _ =>
      cases other.symm.trans kind
      rfl
  | noGenerator _ cannot => cases can.symm.trans cannot
  | notGenerated other _ keyed | answered other _ keyed | notAnswered other _ keyed =>
      cases other.symm.trans kind
      cases keyless.symm.trans keyed
  | passed idle =>
      change NodeKind.isExecutable _ = _ at idle
      rw [kind] at idle
      cases idle
  | sent other | notSent other | unsupported other => cases other.symm.trans kind

theorem failure_iff (allowed : visit.Allowed canGenerate order context) :
    (∃ failure, visit.failure = some failure ∧ failure.message = text) ↔
      RunFailure canGenerate [visit] visit.events text := by
  constructor
  · rintro ⟨failure, failed, rfl⟩
    cases allowed with
    | notSent kind | notAnswered kind =>
        cases failed
        exact .send (by simp; rfl)
    | notGenerated kind =>
        cases failed
        exact .generation (by simp; rfl)
    | noKey kind can keyless =>
        cases failed
        exact .noKey (.head _) kind can keyless
    | passed _ | sent _ | unsupported _ | noGenerator _ _ | answered _ _ _ => cases failed
  · intro failed
    cases failed with
    | send member => exact ⟨_, allowed.failure_of_sent_error member, rfl⟩
    | generation member => exact ⟨_, allowed.failure_of_generated_error member, rfl⟩
    | noKey member kind can keyless =>
        cases List.mem_singleton.mp member
        exact ⟨_, allowed.failure_of_noKey kind can keyless, rfl⟩

end Visit.Allowed

variable {graph : Graph} {made limit left : Nat} {start node : Node} {progress : Progress WalkEnd}
  {history : List RunEvent}

theorem WalkAccount.outcome_eq_error_iff {failure : ActionError}
    (account : WalkAccount graph canGenerate orders context made limit start visits progress
      history) :
    progress.outcome = .error failure ↔ ∃ visit ∈ visits, visit.failure = some failure := by
  obtain ⟨-, -, -, succeeded, -, count, conclusion, -⟩ := account
  obtain ⟨entries, outcome⟩ := progress
  cases conclusion with
  | @failed last other isLast failed =>
      simp only [Except.error.injEq]
      constructor
      · rintro rfl
        exact ⟨last, List.mem_of_getLast? isLast, failed⟩
      · rintro ⟨visit, member, fails⟩
        obtain ⟨earlier, rfl⟩ := List.getLast?_eq_some_iff.mp isLast
        rw [List.dropLast_concat] at succeeded
        cases List.mem_append.mp member with
        | inl before => cases fails.symm.trans (succeeded visit before)
        | inr last =>
            cases List.mem_singleton.mp last
            exact Option.some.inj (failed.symm.trans fails)
  | stepLimit _ others | ended _ others _ _ =>
      simp only [reduceCtorEq, false_iff, not_exists, not_and]
      intro visit member fails
      cases fails.symm.trans (others visit member)

/-- A walk fails if and only if something goes wrong on it. -/
theorem WalkAccount.failure_iff (text : String) (startedAt finishedAt : Instant)
    (account : WalkAccount graph canGenerate orders context made limit start visits progress
      history) :
    (∃ failure, progress.outcome = .error failure ∧ failure.message = text) ↔
      RunFailure canGenerate visits (.told startedAt :: history ++ [.told finishedAt]) text := by
  have single : ∀ visit ∈ visits, (∃ failure, visit.failure = some failure ∧
      failure.message = text) ↔ RunFailure canGenerate [visit] visit.events text := by
    intro visit member
    obtain ⟨i, bound, rfl⟩ := List.mem_iff_getElem.mp member
    exact (account.allowed i bound).failure_iff
  simp only [account.outcome_eq_error_iff]
  rw [account.history_eq]
  constructor
  · rintro ⟨failure, ⟨visit, member, failed⟩, same⟩
    cases (single visit member).mp ⟨failure, failed, same⟩ with
    | send event => exact .send (by simpa using ⟨visit, member, event⟩)
    | generation event => exact .generation (by simpa using ⟨visit, member, event⟩)
    | noKey only kind can keyless =>
        cases List.mem_singleton.mp only
        exact .noKey member kind can keyless
  · intro failed
    have visited : ∃ visit ∈ visits, RunFailure canGenerate [visit] visit.events text := by
      cases failed with
      | send event =>
          obtain ⟨visit, member, event⟩ : ∃ visit ∈ visits, _ ∈ visit.events := by
            simpa using event
          exact ⟨visit, member, .send event⟩
      | generation event =>
          obtain ⟨visit, member, event⟩ : ∃ visit ∈ visits, _ ∈ visit.events := by
            simpa using event
          exact ⟨visit, member, .generation event⟩
      | noKey member kind can keyless => exact ⟨_, member, .noKey (.head _) kind can keyless⟩
    obtain ⟨visit, member, failed⟩ := visited
    obtain ⟨failure, fails, same⟩ := (single visit member).mpr failed
    exact ⟨failure, ⟨visit, member, fails⟩, same⟩

/-! ## The trace of a walk -/

theorem Visit.Allowed.length_entries_le (graph : Graph) (text : String)
    (allowed : visit.Allowed canGenerate order context) :
    visit.entries.length + (graph.outcomeEntries text visit.node).length ≤ 1 := by
  cases allowed with
  | @passed node idle =>
      cases kind : node.kind with
      | condition condition =>
          simp only [Graph.outcomeEntries, kind]
          split <;> simp
      | trigger _ | action _ | agent _ | other _ => simp [Graph.outcomeEntries, kind]
  | sent kind | notSent kind | unsupported kind | noGenerator kind _ | noKey kind _ _
  | notGenerated kind _ _ | answered kind _ _ | notAnswered kind _ _ =>
      simp [Graph.outcomeEntries, kind]

theorem Visit.Allowed.entries_of_failure {failure : ActionError}
    (allowed : visit.Allowed canGenerate order context) (failed : visit.failure = some failure) :
    visit.entries = [] := by
  cases allowed with
  | notSent _ | noKey _ _ _ | notGenerated _ _ _ | notAnswered _ _ _ => rfl
  | passed _ | sent _ | unsupported _ | noGenerator _ _ | answered _ _ _ => cases failed

/-- Each step of a walk adds two lines at most, the outcome of the first node apart.  A failure
leaves room for a line about it. -/
theorem length_steps_walkFrom_le
    (runs : Runs (walkFrom graph canGenerate orders context left made node) history progress) :
    progress.steps.length ≤ (graph.outcomeEntries context.userText node).length + 2 * left ∧
      ∀ failure, progress.outcome = .error failure →
        progress.steps.length < (graph.outcomeEntries context.userText node).length + 2 * left := by
  induction left generalizing made node history progress with
  | zero =>
      obtain ⟨rfl, rfl⟩ := runs_pure_iff.mp runs
      exact ⟨Nat.zero_le _, nofun⟩
  | succ left ih =>
      rcases runs_walkFrom_succ_iff.mp runs with ⟨ending, ends, rfl, rfl⟩ |
        ⟨visit, failure, next, allowed, failed, rfl, rfl⟩ |
        ⟨visit, rest, after, next, allowed, succeeded, later, rfl, rfl⟩
      · refine ⟨?_, nofun⟩
        simp only [Graph.stepEntries, List.length_cons]
        omega
      · simp only [Graph.stepEntries, allowed.entries_of_failure failed, List.append_nil,
          List.length_cons]
        exact ⟨by omega, fun _ _ => by omega⟩
      · have entries := allowed.length_entries_le graph context.userText
        obtain ⟨bound, strict⟩ := ih later
        simp only [Graph.stepEntries, List.length_append, List.length_cons]
        refine ⟨by omega, ?_⟩
        intro failure failed
        have strict := strict failure failed
        omega

def TellsError (step : String) : Prop := ∃ rest, step = "Error: " ++ rest

theorem not_tellsError_of_head? {step : String} (first : Char)
    (head : step.toList.head? = some first) (other : first ≠ 'E') : ¬ TellsError step := by
  rintro ⟨rest, rfl⟩
  simp only [String.toList_append, List.head?_append, String.reduceToList, List.head?_cons,
    Option.some_or, Option.some.injEq] at head
  exact other head.symm

theorem Graph.not_tellsError_outcomeText (outcome : ConditionOutcome) :
    ¬ TellsError (outcomeText outcome) := by
  have head : (outcomeText outcome).toList.head? = some 'C' := by
    cases outcome with
    | evaluated result =>
        cases result with
        | true =>
            change "Condition result: true".toList.head? = _
            simp
        | false =>
            change "Condition result: false".toList.head? = _
            simp
    | unimplemented kind =>
        change ("Condition result: false (unimplemented condition kind: " ++ kind ++
          ")").toList.head? = _
        simp
  exact not_tellsError_of_head? _ head (by decide)

theorem Graph.not_tellsError_stepEntries {text : String} {number : Nat} :
    ∀ step ∈ graph.stepEntries text number node, ¬ TellsError step := by
  intro step member
  rw [stepEntries, List.mem_cons] at member
  cases member with
  | inl name =>
      subst name
      exact not_tellsError_of_head? 'S' (by simp) (by decide)
  | inr outcome =>
      unfold outcomeEntries at outcome
      split at outcome
      case h_1 condition kind =>
          split at outcome
          · cases List.mem_singleton.mp outcome
            exact not_tellsError_outcomeText _
          · cases outcome
      all_goals cases outcome

theorem Visit.Allowed.not_tellsError (allowed : visit.Allowed canGenerate order context) :
    ∀ step ∈ visit.entries, ¬ TellsError step := by
  intro step member
  cases allowed with
  | unsupported _ | noGenerator _ _ =>
      cases List.mem_singleton.mp member
      exact not_tellsError_of_head? 'S' (by simp) (by decide)
  | passed _ | sent _ | notSent _ | noKey _ _ _ | notGenerated _ _ _ | answered _ _ _
  | notAnswered _ _ _ => cases member

theorem not_tellsError_of_runs_walkFrom
    (runs : Runs (walkFrom graph canGenerate orders context left made node) history progress) :
    ∀ step ∈ progress.steps, ¬ TellsError step := by
  induction left generalizing made node history progress with
  | zero =>
      obtain ⟨rfl, rfl⟩ := runs_pure_iff.mp runs
      exact nofun
  | succ left ih =>
      rcases runs_walkFrom_succ_iff.mp runs with ⟨ending, ends, rfl, rfl⟩ |
        ⟨visit, failure, next, allowed, failed, rfl, rfl⟩ |
        ⟨visit, rest, after, next, allowed, succeeded, later, rfl, rfl⟩
      · exact Graph.not_tellsError_stepEntries
      · intro step member
        cases List.mem_append.mp member with
        | inl name => exact Graph.not_tellsError_stepEntries step name
        | inr entry => exact allowed.not_tellsError step entry
      · intro step member
        simp only [List.mem_append, or_assoc] at member
        rcases member with name | entry | other
        · exact Graph.not_tellsError_stepEntries step name
        · exact allowed.not_tellsError step entry
        · exact ih later step other

/-! ## Cases -/

def Node.StartsOn (node : Node) (context : RunContext) : Prop :=
  ∃ trigger, node.kind = .trigger trigger ∧
    trigger.accepts context.userText context.isCallback = true

instance (node : Node) (context : RunContext) : Decidable (node.StartsOn context) :=
  match kind : node.kind with
  | .trigger trigger =>
    decidable_of_iff (trigger.accepts context.userText context.isCallback = true) (by
      simp [Node.StartsOn, kind])
  | .condition _ | .action _ | .agent _ | .other _ => isFalse (by simp [Node.StartsOn, kind])

theorem Graph.select_eq_find? :
    graph.select context = graph.nodes.find? fun node => decide (node.StartsOn context) := by
  rw [select]
  congr 1
  funext node
  rw [Bool.eq_iff_iff, decide_eq_true_iff, Node.StartsOn]
  cases node.kind <;> simp

/-- A run that had no definition. -/
structure IsUnreadable (result : RunResult) (history : List RunEvent) : Prop where
  status : result.status = .failed
  steps : result.steps.length = 1
  error : result.error.isSome
  workflowId : result.workflowId = none
  startedAt : result.startedAt = none
  finishedAt : result.finishedAt = none
  attempted : attempted history = []
  requested : requested history = []

/-- A run that no trigger started. -/
structure IsUnmatched (result : RunResult) (history : List RunEvent) : Prop where
  status : result.status = .noMatch
  steps : result.steps = []
  error : result.error = none
  workflowId : result.workflowId = none
  startedAt : result.startedAt = none
  finishedAt : result.finishedAt = none
  attempted : attempted history = []
  requested : requested history = []

/-- A run that a trigger started and that made some visits. -/
structure IsMatched (canGenerate : Bool) (workflowId : Option WorkflowId) (trigger : Node)
    (visits : List Visit) (result : RunResult) (history : List RunEvent) : Prop where
  workflowId : result.workflowId = workflowId
  startedAt : result.startedAt.isSome
  finishedAt : result.finishedAt.isSome
  first : result.steps.head? =
    some ("Triggered by: " ++ if trigger.label = "" then "Unknown Trigger" else trigger.label)
  failed_iff : result.status = .failed ↔ ∃ text, RunFailure canGenerate visits history text
  failed : ∀ text, RunFailure canGenerate visits history text →
    result.error = some text ∧ result.steps.getLast? = some ("Error: " ++ text)
  succeeded : (¬ ∃ text, RunFailure canGenerate visits history text) →
    result.status = .success ∧ result.error = none

inductive RunCase where
  | unreadable
  | unmatched
  | matched

/-- When a run falls in a case, and what the case says about it. -/
def RunCase.Describes (definition : Option String) (canGenerate : Bool)
    (orders : Nat → VariableOrder) (workflowId : Option WorkflowId) (context : RunContext)
    (result : RunResult) (history : List RunEvent) : RunCase → Prop
  | unreadable =>
    (∃ failure, Definition.parse definition = .error failure) ∧ IsUnreadable result history
  | unmatched =>
    (∃ parsed, Definition.parse definition = .ok parsed ∧
      ∀ node ∈ (Graph.ofDefinition parsed).nodes, ¬ node.StartsOn context) ∧
    IsUnmatched result history
  | matched =>
    ∃ parsed trigger before after visits progress walked startedAt finishedAt,
      Definition.parse definition = .ok parsed ∧
      (Graph.ofDefinition parsed).nodes = before ++ trigger :: after ∧
      (∀ node ∈ before, ¬ node.StartsOn context) ∧ trigger.StartsOn context ∧
      WalkAccount (.ofDefinition parsed) canGenerate orders context 0 50 trigger visits progress
        walked ∧
      history = .told startedAt :: walked ++ [.told finishedAt] ∧
      IsMatched canGenerate workflowId trigger visits result history

/-! ## The cases of runs -/

variable {definition : Option String} {workflowId : Option WorkflowId} {result : RunResult}
  {trigger : Node} {walked : List RunEvent} {startedAt finishedAt : Instant}

theorem triggerName_eq (trigger : Node) :
    triggerName trigger = if trigger.label = "" then "Unknown Trigger" else trigger.label := by
  simp only [triggerName, String.isEmpty_iff]

theorem WalkAccount.isMatched
    (account : WalkAccount graph canGenerate orders context made limit trigger visits progress
      walked) :
    IsMatched canGenerate workflowId trigger visits
      (((RunResult.ofWalk trigger progress).withWorkflowId workflowId).withTiming
        startedAt finishedAt)
      (.told startedAt :: walked ++ [.told finishedAt]) := by
  have failures := fun text => account.failure_iff text startedAt finishedAt
  obtain ⟨steps, outcome⟩ := progress
  cases outcome with
  | ok ending =>
      have none : ∀ text, ¬ RunFailure canGenerate visits
          (.told startedAt :: walked ++ [.told finishedAt]) text := by
        intro text failed
        obtain ⟨failure, fails, -⟩ := (failures text).mpr failed
        cases fails
      refine ⟨rfl, rfl, rfl, ?_, ?_, fun text failed => absurd failed (none text),
        fun _ => ⟨rfl, rfl⟩⟩
      · rw [← triggerName_eq]
        rfl
      · exact ⟨nofun, fun failed => absurd failed (not_exists.mpr none)⟩
  | error failure =>
      have same : ∀ text, RunFailure canGenerate visits
          (.told startedAt :: walked ++ [.told finishedAt]) text → text = failure.message := by
        intro text failed
        obtain ⟨other, fails, rfl⟩ := (failures text).mpr failed
        cases fails
        rfl
      have fails := (failures failure.message).mp ⟨failure, rfl, rfl⟩
      refine ⟨rfl, rfl, rfl, ?_, ?_, ?_, fun none => absurd ⟨_, fails⟩ none⟩
      · rw [← triggerName_eq]
        rfl
      · exact ⟨fun _ => ⟨_, fails⟩, fun _ => rfl⟩
      · intro text failed
        cases same text failed
        exact ⟨rfl, List.getLast?_concat⟩

theorem RunCase.exists_describes
    (course : RunCourse definition canGenerate orders workflowId context history result) :
    ∃ case : RunCase,
      case.Describes definition canGenerate orders workflowId context result history := by
  cases course with
  | @unreadable startedAt failure unread =>
      exact ⟨.unreadable, ⟨failure, unread⟩, rfl, rfl, rfl, rfl, rfl, rfl, rfl, rfl⟩
  | @unmatched startedAt parsed read unselected =>
      rw [Graph.select_eq_find?, List.find?_eq_none] at unselected
      simp only [decide_eq_true_eq] at unselected
      exact ⟨.unmatched, ⟨parsed, read, unselected⟩, rfl, rfl, rfl, rfl, rfl, rfl, rfl, rfl⟩
  | @walked startedAt finishedAt parsed trigger walked progress read selected runs =>
      rw [Graph.select_eq_find?, List.find?_eq_some_iff_append] at selected
      simp only [decide_eq_true_eq, Bool.not_eq_true', decide_eq_false_iff_not] at selected
      obtain ⟨starts, before, after, nodes, earlier⟩ := selected
      obtain ⟨visits, account⟩ := runs_walkFrom_iff.mp runs
      exact ⟨.matched, parsed, trigger, before, after, visits, progress, walked, startedAt,
        finishedAt, read, nodes, earlier, starts, account, rfl, account.isMatched⟩

def RunCase.ofResult (result : RunResult) : RunCase :=
  if result.startedAt.isSome then matched
  else if result.status = .failed then unreadable
  else unmatched

theorem RunCase.eq_ofResult {case : RunCase}
    (describes : case.Describes definition canGenerate orders workflowId context result history) :
    case = .ofResult result := by
  cases case with
  | unreadable => simp [ofResult, describes.2.startedAt, describes.2.status]
  | unmatched => simp [ofResult, describes.2.startedAt, describes.2.status]
  | matched =>
      obtain ⟨_, _, _, _, _, _, _, _, _, -, -, -, -, -, -, isMatched⟩ := describes
      simp [ofResult, isMatched.startedAt]

theorem RunCourse.length_steps_le
    (course : RunCourse definition canGenerate orders workflowId context history result) :
    result.steps.length ≤ 101 := by
  cases course with
  | unreadable unread => exact Nat.le_of_ble_eq_true rfl
  | unmatched read unselected => exact Nat.zero_le _
  | @walked startedAt finishedAt parsed trigger walked progress read selected runs =>
      rw [Graph.select_eq_find?] at selected
      obtain ⟨start, kind, -⟩ := of_decide_eq_true (List.find?_some selected :)
      have bounds := length_steps_walkFrom_le runs
      have outcome : Graph.outcomeEntries (.ofDefinition parsed) context.userText trigger = [] := by
        rw [Graph.outcomeEntries, kind]
      rw [outcome, List.length_nil, stepLimit] at bounds
      change (RunResult.ofWalk trigger progress).steps.length ≤ 101
      rw [RunResult.steps_ofWalk]
      cases ended : progress.outcome with
      | ok ending =>
          simp only [List.length_append, List.length_cons, List.length_nil]
          omega
      | error failure =>
          have strict := bounds.2 failure ended
          simp only [List.length_append, List.length_cons, List.length_nil]
          omega

theorem DefinitionError.not_tellsError (failure : DefinitionError) :
    ¬ TellsError failure.traceEntry := by
  rintro ⟨rest, same⟩
  have letters := congrArg String.toList same
  cases failure with
  | empty => simp [traceEntry] at letters
  | invalidJson reason => simp [traceEntry] at letters

theorem RunCourse.failed_of_tellsError
    (course : RunCourse definition canGenerate orders workflowId context history result)
    {before after : List String} {step : String} (steps : result.steps = before ++ step :: after)
    (tells : TellsError step) :
    result.status = .failed ∧ result.startedAt.isSome ∧ after = [] := by
  cases course with
  | @unreadable startedAt failure unread =>
      have member : step ∈ [failure.traceEntry] := by
        change [failure.traceEntry] = _ at steps
        rw [steps]
        exact List.mem_append_right _ (.head _)
      cases List.mem_singleton.mp member
      exact absurd tells failure.not_tellsError
  | unmatched read unselected => cases before <;> cases steps
  | @walked startedAt finishedAt parsed trigger walked progress read selected runs =>
      change (RunResult.ofWalk trigger progress).steps = _ at steps
      rw [RunResult.steps_ofWalk] at steps
      have plain : ∀ line ∈ ("Triggered by: " ++ triggerName trigger) :: progress.steps,
          ¬ TellsError line := by
        intro line member
        cases member with
        | head => exact not_tellsError_of_head? 'T' (by simp) (by decide)
        | tail _ member => exact not_tellsError_of_runs_walkFrom runs line member
      cases ended : progress.outcome with
      | ok ending =>
          rw [ended, List.append_nil] at steps
          refine absurd tells (plain step ?_)
          rw [steps]
          exact List.mem_append_right _ (.head _)
      | error failure =>
          rw [ended] at steps
          refine ⟨by simp only [RunResult.ofWalk, ended]; rfl, rfl, ?_⟩
          rcases List.eq_nil_or_concat after with rfl | ⟨inner, last, rfl⟩
          · rfl
          · rw [List.concat_eq_append, ← List.cons_append, ← List.append_assoc] at steps
            refine absurd tells (plain step ?_)
            rw [List.append_inj_left' steps rfl]
            exact List.mem_append_right _ (.head _)

/-- The result of a run falls in exactly one case, and what the case says holds of it.  It has 101
steps at most, of which only the last of a run that failed on its walk tells of a failure. -/
theorem runIn_run_outcome (definition : Option String) (canGenerate : Bool)
    (orders : Nat → VariableOrder) (workflowId : Option WorkflowId) (context : RunContext)
    (surroundings : Program.Surroundings RunCall RunCall.Answer) :
    let ran := (run definition canGenerate orders workflowId context).runIn surroundings
    (∃! case : RunCase,
      case.Describes definition canGenerate orders workflowId context ran.1 ran.2) ∧
    ran.1.steps.length ≤ 101 ∧
    ∀ before step after, ran.1.steps = before ++ step :: after →
      (∃ rest, step = "Error: " ++ rest) →
      ran.1.status = .failed ∧ after = [] ∧
        RunCase.matched.Describes definition canGenerate orders workflowId context ran.1 ran.2 := by
  intro ran
  have course := runs_run_iff.mp (Program.runs_runIn surroundings
    (run definition canGenerate orders workflowId context))
  obtain ⟨case, describes⟩ := RunCase.exists_describes course
  refine ⟨⟨case, describes, fun other describes' => ?_⟩, course.length_steps_le, ?_⟩
  · rw [RunCase.eq_ofResult describes, RunCase.eq_ofResult describes']
  · intro before step after steps tells
    obtain ⟨failed, started, last⟩ := course.failed_of_tellsError steps tells
    have matched : case = .matched := by
      rw [RunCase.eq_ofResult describes, RunCase.ofResult, if_pos started]
    rw [matched] at describes
    exact ⟨failed, last, describes⟩

end Chatflow
