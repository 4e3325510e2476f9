import Chatflow.Proofs.Walk.Account

/-!
# What walks do

A walk does what an account of it says, in all surroundings, and nothing else.
-/

namespace Chatflow

open Program (Runs runs_bind_iff runs_pure_iff)

/-! ## One step along an edge -/

namespace Graph

variable {graph : Graph} {text : String} {node target : Node} {edge : Edge} {ending : WalkEnd}

theorem outgoing_eq_nil_iff {id : NodeId} :
    graph.outgoing id = [] ↔ ∀ edge ∈ graph.edges, edge.source ≠ id := by
  simp [outgoing, List.filter_eq_nil_iff]

theorem outgoing_ne_nil_iff {id : NodeId} :
    graph.outgoing id ≠ [] ↔ ∃ edge ∈ graph.edges, edge.source = id := by
  rw [ne_eq, outgoing_eq_nil_iff]
  simp

theorem typeText_eq (kind : NodeKind) : typeText kind = kind.typeName := by
  cases kind <;> rfl

theorem outcomeText_eq (outcome : ConditionOutcome) : outcomeText outcome = outcome.traceEntry := by
  cases outcome with
  | evaluated result => cases result <;> rfl
  | unimplemented kind => rfl

theorem exitOn_eq (condition : Condition) (text : String) :
    condition.exitOn text = .ofOutcome (condition.evaluate text).branch := by
  rw [Condition.exitOn]
  cases condition.evaluate text with
  | evaluated result => cases result <;> rfl
  | unimplemented kind => rfl

theorem chosenEdge?_of_condition {condition : Condition} (kind : node.kind = .condition condition) :
    graph.chosenEdge? text node =
      (graph.outgoing node.id).find? (·.isBranch (condition.evaluate text).branch) := by
  rw [chosenEdge?, outgoing, List.find?_filter]
  congr 1
  funext edge
  rw [Bool.eq_iff_iff]
  simp [Leaves, kind, Edge.isBranch, exitOn_eq]

theorem chosenEdge?_of_ne_condition (kind : ∀ condition, node.kind ≠ .condition condition) :
    graph.chosenEdge? text node = (graph.outgoing node.id).head? := by
  rw [chosenEdge?, outgoing, List.head?_filter]
  congr 1
  funext edge
  rw [Bool.eq_iff_iff]
  simp [Leaves, kind]

theorem chosenEdge?_eq_some (chosen : graph.chosenEdge? text node = some edge) :
    edge ∈ graph.edges ∧ Leaves text node edge := by
  rw [chosenEdge?] at chosen
  exact ⟨List.mem_of_find?_eq_some chosen, of_decide_eq_true (List.find?_some chosen :)⟩

theorem exists_condition_of_chosenEdge?_eq_none (edges : graph.outgoing node.id ≠ [])
    (unchosen : graph.chosenEdge? text node = none) :
    ∃ condition, node.kind = .condition condition := by
  cases kind : node.kind with
  | condition condition => exact ⟨condition, rfl⟩
  | trigger _ | action _ | agent _ | other _ =>
      rw [chosenEdge?_of_ne_condition (by simp [kind]), List.head?_eq_none_iff] at unchosen
      exact absurd unchosen edges

theorem follow_eq_ok_iff :
    graph.follow edge = .ok target ↔
      graph.nodes.find? (fun node => node.id == edge.target) = some target := by
  rw [follow, node?]
  cases graph.nodes.find? (fun node => node.id == edge.target) with
  | none => simp
  | some found => simp

theorem follow_eq_error_iff :
    graph.follow edge = .error ending ↔
      ending = .unresolvedTarget ∧ ∀ node ∈ graph.nodes, node.id ≠ edge.target := by
  have missing : graph.nodes.find? (fun node => node.id == edge.target) = none ↔
      ∀ node ∈ graph.nodes, node.id ≠ edge.target := by
    simp [List.find?_eq_none]
  rw [← missing, follow, node?]
  cases graph.nodes.find? (fun node => node.id == edge.target) with
  | none => simp [eq_comm]
  | some found => simp

theorem next_eq :
    graph.next text node =
      (graph.outcomeEntries text node,
        if graph.outgoing node.id = [] then .error .noOutgoingEdge
        else
          match graph.chosenEdge? text node with
          | some edge => graph.follow edge
          | none => .error .noMatchingBranch) := by
  have leaving : graph.outgoing node.id ≠ [] ↔ ∃ edge ∈ graph.edges, edge.source = node.id :=
    outgoing_ne_nil_iff
  rw [next]
  cases edges : graph.outgoing node.id with
  | nil =>
      simp only [edges, ne_eq, not_true_eq_false, false_iff] at leaving
      cases kind : node.kind <;> simp [outcomeEntries, kind, leaving]
  | cons first rest =>
      simp only [edges, ne_eq, reduceCtorEq, not_false_eq_true, true_iff] at leaving
      cases kind : node.kind with
      | condition condition =>
          have entries : graph.outcomeEntries text node =
              [(condition.evaluate text).traceEntry] := by
            rw [outcomeEntries, kind, ← outcomeText_eq]
            exact if_pos leaving
          rewrite [entries, chosenEdge?_of_condition kind, edges, if_neg (List.cons_ne_nil _ _)]
          rfl
      | trigger _ | action _ | agent _ | other _ =>
          simp [outcomeEntries, kind, chosenEdge?_of_ne_condition, edges]

theorem next_eq_ok_iff :
    (graph.next text node).2 = .ok target ↔ graph.successor? text node = some target := by
  rw [next_eq, successor?]
  cases chosen : graph.chosenEdge? text node with
  | none => by_cases edges : graph.outgoing node.id = [] <;> simp [edges]
  | some edge =>
      obtain ⟨member, source, _⟩ := chosenEdge?_eq_some chosen
      have edges := outgoing_ne_nil_iff.mpr ⟨edge, member, source⟩
      simp only [if_neg edges, Option.bind_some]
      exact follow_eq_ok_iff

theorem next_eq_error_iff :
    (graph.next text node).2 = .error ending ↔ graph.EndsAt text node ending := by
  rw [next_eq]
  by_cases edges : graph.outgoing node.id = []
  · have final := outgoing_eq_nil_iff.mp edges
    simp only [if_pos edges, Except.error.injEq]
    constructor
    · rintro rfl
      exact .noOutgoingEdge final
    · intro ends
      cases ends with
      | noOutgoingEdge _ => rfl
      | noMatchingBranch _ member source _ => exact absurd source (final _ member)
      | unresolvedTarget chosen _ =>
          obtain ⟨member, source, _⟩ := chosenEdge?_eq_some chosen
          exact absurd source (final _ member)
  · obtain ⟨first, member, source⟩ := outgoing_ne_nil_iff.mp edges
    simp only [if_neg edges]
    cases chosen : graph.chosenEdge? text node with
    | none =>
        obtain ⟨condition, kind⟩ := exists_condition_of_chosenEdge?_eq_none edges chosen
        simp only [Except.error.injEq]
        constructor
        · rintro rfl
          exact .noMatchingBranch kind member source chosen
        · intro ends
          cases ends with
          | noOutgoingEdge final => exact absurd source (final _ member)
          | noMatchingBranch _ _ _ _ => rfl
          | unresolvedTarget other _ =>
              rw [chosen] at other
              cases other
    | some edge =>
        simp only [follow_eq_error_iff]
        constructor
        · rintro ⟨rfl, dangling⟩
          exact .unresolvedTarget chosen dangling
        · intro ends
          cases ends with
          | noOutgoingEdge final => exact absurd source (final _ member)
          | noMatchingBranch _ _ _ unchosen =>
              rw [chosen] at unchosen
              cases unchosen
          | unresolvedTarget other dangling =>
              rw [chosen] at other
              cases other
              exact ⟨rfl, dangling⟩

end Graph

/-! ## Visits -/

variable {canGenerate : Bool} {order : VariableOrder} {context : RunContext}
  {history : List RunEvent}

def Visit.progress (visit : Visit) : Progress Unit where
  steps := visit.entries
  outcome := visit.failure.elim (.ok ()) .error

theorem runs_deliver_iff {node : Node} {text : String} {options : SendOptions}
    {progress : Progress Unit} :
    Runs (deliver context node text options) history progress ↔
      (∃ receipt, history = [.sent ⟨context.chat, text, options⟩ (.ok receipt)] ∧
        progress = ⟨[], .ok ()⟩) ∨
      (∃ failure, history = [.sent ⟨context.chat, text, options⟩ (.error failure)] ∧
        progress = ⟨[], .error (.delivery node.id failure)⟩) := by
  rw [deliver, runs_send_bind_iff]
  constructor
  · rintro ⟨answer, rest, rfl, runs⟩
    cases answer with
    | ok receipt =>
        obtain ⟨rfl, rfl⟩ := runs_pure_iff.mp runs
        exact .inl ⟨receipt, rfl, rfl⟩
    | error failure =>
        obtain ⟨rfl, rfl⟩ := runs_pure_iff.mp runs
        exact .inr ⟨failure, rfl, rfl⟩
  · rintro (⟨receipt, rfl, rfl⟩ | ⟨failure, rfl, rfl⟩)
    · exact ⟨_, _, rfl, runs_pure_iff.mpr ⟨rfl, rfl⟩⟩
    · exact ⟨_, _, rfl, runs_pure_iff.mpr ⟨rfl, rfl⟩⟩

theorem Action.sendOptions_eq_optionsWith (buttons : List ButtonSpec) :
    sendOptions buttons = optionsWith buttons := by
  cases buttons with
  | nil => rfl
  | cons first rest =>
      simp [sendOptions, optionsWith, SendOptions.markdown, SendOptions.withKeyboard,
        Keyboard.singleColumn, Keyboard.isEmpty]

theorem VariableOrder.variables_eq (order : VariableOrder) (context : RunContext) :
    order.variables context = Agent.promptVariables order context := by
  cases order <;> rfl

theorem Agent.request_of_keyless {agent : Agent} (keyless : agent.apiKey = none) :
    agent.request order context =
      .error (.invalidConfig (agent.provider.name ++ " agent has no apiKey")) := by
  rw [request, keyless]

theorem Agent.request_of_keyed {agent : Agent} {apiKey : String}
    (keyed : agent.apiKey = some apiKey) :
    agent.request order context = .ok (agent.question apiKey order context) := by
  rw [request, keyed, question, order.variables_eq]

theorem Visit.Allowed.runs {visit : Visit} (allowed : visit.Allowed canGenerate order context) :
    Runs (execute canGenerate order context visit.node) visit.events visit.progress := by
  cases allowed with
  | @passed node idle =>
      rw [execute]
      cases kind : node.kind with
      | trigger _ | condition _ | other _ => exact runs_pure_iff.mpr ⟨rfl, rfl⟩
      | action _ | agent _ =>
          rw [kind] at idle
          cases idle
  | sent kind =>
      simp only [execute, kind, Action.sendOptions_eq_optionsWith]
      exact runs_deliver_iff.mpr (.inl ⟨_, rfl, rfl⟩)
  | notSent kind =>
      simp only [execute, kind, Action.sendOptions_eq_optionsWith]
      exact runs_deliver_iff.mpr (.inr ⟨_, rfl, rfl⟩)
  | unsupported kind =>
      simp only [execute, kind]
      exact runs_pure_iff.mpr ⟨rfl, rfl⟩
  | noGenerator kind cannot =>
      simp only [execute, kind, runAgent, cannot]
      exact runs_pure_iff.mpr ⟨rfl, rfl⟩
  | noKey kind can keyless =>
      simp only [execute, kind, runAgent, can, Agent.request_of_keyless keyless]
      exact runs_pure_iff.mpr ⟨rfl, rfl⟩
  | notGenerated kind can keyed =>
      simp only [execute, kind, runAgent, can, Agent.request_of_keyed keyed]
      exact runs_generate_bind_iff.mpr ⟨_, _, rfl, runs_pure_iff.mpr ⟨rfl, rfl⟩⟩
  | answered kind can keyed =>
      simp only [execute, kind, runAgent, can, Agent.request_of_keyed keyed]
      exact runs_generate_bind_iff.mpr ⟨_, _, rfl, runs_deliver_iff.mpr (.inl ⟨_, rfl, rfl⟩)⟩
  | notAnswered kind can keyed =>
      simp only [execute, kind, runAgent, can, Agent.request_of_keyed keyed]
      exact runs_generate_bind_iff.mpr ⟨_, _, rfl, runs_deliver_iff.mpr (.inr ⟨_, rfl, rfl⟩)⟩

theorem exists_visit_of_runs_runAgent {node : Node} {agent : Agent} {progress : Progress Unit}
    (kind : node.kind = .agent agent)
    (runs : Runs (runAgent canGenerate order context node agent) history progress) :
    ∃ visit : Visit, visit.Allowed canGenerate order context ∧ visit.node = node ∧
      visit.events = history ∧ visit.progress = progress := by
  rw [runAgent] at runs
  cases can : canGenerate with
  | false =>
      rw [can] at runs
      obtain ⟨rfl, rfl⟩ := runs_pure_iff.mp runs
      exact ⟨_, .noGenerator kind rfl, rfl, rfl, rfl⟩
  | true =>
      simp only [can, Bool.not_true, Bool.false_eq_true, ↓reduceIte] at runs
      cases keyed : agent.apiKey with
      | none =>
          simp only [Agent.request_of_keyless keyed] at runs
          obtain ⟨rfl, rfl⟩ := runs_pure_iff.mp runs
          exact ⟨_, .noKey kind rfl keyed, rfl, rfl, rfl⟩
      | some apiKey =>
          simp only [Agent.request_of_keyed keyed] at runs
          obtain ⟨answer, rest, rfl, after⟩ := runs_generate_bind_iff.mp runs
          cases answer with
          | error failure =>
              obtain ⟨rfl, rfl⟩ := runs_pure_iff.mp after
              exact ⟨_, .notGenerated kind rfl keyed, rfl, rfl, rfl⟩
          | ok reply =>
              obtain ⟨receipt, rfl, rfl⟩ | ⟨failure, rfl, rfl⟩ := runs_deliver_iff.mp after
              · exact ⟨_, .answered kind rfl keyed, rfl, rfl, rfl⟩
              · exact ⟨_, .notAnswered kind rfl keyed, rfl, rfl, rfl⟩

theorem runs_execute_iff {node : Node} {progress : Progress Unit} :
    Runs (execute canGenerate order context node) history progress ↔
      ∃ visit : Visit, visit.Allowed canGenerate order context ∧ visit.node = node ∧
        visit.events = history ∧ visit.progress = progress := by
  constructor
  · intro runs
    rw [execute] at runs
    split at runs
    case h_1 message buttons kind =>
        rw [Action.sendOptions_eq_optionsWith] at runs
        obtain ⟨receipt, rfl, rfl⟩ | ⟨failure, rfl, rfl⟩ := runs_deliver_iff.mp runs
        · exact ⟨_, .sent kind, rfl, rfl, rfl⟩
        · exact ⟨_, .notSent kind, rfl, rfl, rfl⟩
    case h_2 kind =>
        obtain ⟨rfl, rfl⟩ := runs_pure_iff.mp runs
        exact ⟨_, .unsupported kind, rfl, rfl, rfl⟩
    case h_3 agent kind => exact exists_visit_of_runs_runAgent kind runs
    all_goals
      rename_i kind
      obtain ⟨rfl, rfl⟩ := runs_pure_iff.mp runs
      exact ⟨_, .passed (by rw [kind]; rfl), rfl, rfl, rfl⟩
  · rintro ⟨visit, allowed, rfl, rfl, rfl⟩
    exact allowed.runs

/-! ## Walks -/

namespace Graph

variable {graph : Graph} {text : String} {start target : Node}

theorem nodeAfter?_succ (next : graph.successor? text start = some target) (steps : Nat) :
    graph.nodeAfter? text start (steps + 1) = graph.nodeAfter? text target steps := by
  induction steps with
  | zero => simp [nodeAfter?, next]
  | succ steps ih =>
      rw [nodeAfter?, ih]
      rfl

end Graph

variable {graph : Graph} {orders : Nat → VariableOrder} {made left limit count : Nat}
  {start node : Node} {visit : Visit} {visits : List Visit} {progress : Progress WalkEnd}

/-- What one step can do: it ends the walk, or it fails on the visit to the next node, or it goes on
from there. -/
theorem runs_walkFrom_succ_iff :
    Runs (walkFrom graph canGenerate orders context (left + 1) made node) history progress ↔
      (∃ ending, graph.EndsAt context.userText node ending ∧ history = [] ∧
        progress = ⟨graph.stepEntries context.userText (made + 1) node, .ok ending⟩) ∨
      (∃ (visit : Visit) (failure : ActionError),
        graph.successor? context.userText node = some visit.node ∧
        visit.Allowed canGenerate (orders (made + 1)) context ∧ visit.failure = some failure ∧
        history = visit.events ∧
        progress = ⟨graph.stepEntries context.userText (made + 1) node ++ visit.entries,
          .error failure⟩) ∨
      (∃ (visit : Visit) (rest : List RunEvent) (after : Progress WalkEnd),
        graph.successor? context.userText node = some visit.node ∧
        visit.Allowed canGenerate (orders (made + 1)) context ∧ visit.failure = none ∧
        Runs (walkFrom graph canGenerate orders context left (made + 1) visit.node) rest after ∧
        history = visit.events ++ rest ∧
        progress = ⟨graph.stepEntries context.userText (made + 1) node ++ visit.entries ++
          after.steps, after.outcome⟩) := by
  have entries : stepEntry (made + 1) node :: (graph.next context.userText node).1 =
      graph.stepEntries context.userText (made + 1) node := by
    rw [Graph.next_eq, Graph.stepEntries, Graph.typeText_eq]
    rfl
  rw [walkFrom]
  simp only [entries]
  constructor
  · intro runs
    cases found : (graph.next context.userText node).2 with
    | error ending =>
        simp only [found] at runs
        obtain ⟨rfl, rfl⟩ := runs_pure_iff.mp runs
        exact .inl ⟨ending, Graph.next_eq_error_iff.mp found, rfl, rfl⟩
    | ok target =>
        simp only [found] at runs
        obtain ⟨first, done, second, rfl, executed, after⟩ := runs_bind_iff.mp runs
        obtain ⟨visit, allowed, rfl, rfl, rfl⟩ := runs_execute_iff.mp executed
        have next := Graph.next_eq_ok_iff.mp found
        cases outcome : visit.failure with
        | some failure =>
            simp only [Visit.progress, outcome, Option.elim] at after
            obtain ⟨rfl, rfl⟩ := runs_pure_iff.mp after
            exact .inr (.inl ⟨visit, failure, next, allowed, outcome, by simp, rfl⟩)
        | none =>
            simp only [Visit.progress, outcome, Option.elim] at after
            obtain ⟨walked, progress, ending, rfl, rest, last⟩ := runs_bind_iff.mp after
            obtain ⟨rfl, rfl⟩ := runs_pure_iff.mp last
            exact .inr (.inr ⟨visit, walked, progress, next, allowed, outcome, rest, by simp, rfl⟩)
  · rintro (⟨ending, ends, rfl, rfl⟩ | ⟨visit, failure, next, allowed, outcome, rfl, rfl⟩ |
      ⟨visit, rest, after, next, allowed, outcome, runs, rfl, rfl⟩)
    · rw [Graph.next_eq_error_iff.mpr ends]
      exact runs_pure_iff.mpr ⟨rfl, rfl⟩
    · rw [Graph.next_eq_ok_iff.mpr next]
      refine runs_bind_iff.mpr ⟨visit.events, _, [], by simp, allowed.runs, ?_⟩
      simp only [Visit.progress, outcome, Option.elim]
      exact runs_pure_iff.mpr ⟨rfl, rfl⟩
    · rw [Graph.next_eq_ok_iff.mpr next]
      refine runs_bind_iff.mpr ⟨visit.events, _, rest, rfl, allowed.runs, ?_⟩
      simp only [Visit.progress, outcome, Option.elim]
      exact runs_bind_iff.mpr ⟨rest, after, [], by simp, runs, runs_pure_iff.mpr ⟨rfl, rfl⟩⟩

theorem walkSteps_nil_one {text : String} :
    walkSteps graph text made start [] 1 = graph.stepEntries text (made + 1) start := by
  simp [walkSteps, Graph.nodeAfter?]

theorem walkSteps_cons {text : String}
    (next : graph.successor? text start = some visit.node) :
    walkSteps graph text made start (visit :: visits) (count + 1) =
      graph.stepEntries text (made + 1) start ++ visit.entries ++
        walkSteps graph text (made + 1) visit.node visits count := by
  rw [walkSteps, List.range_succ_eq_map, List.flatMap_cons, List.flatMap_map]
  congr 1
  rw [walkSteps]
  congr 1
  funext step
  have number : made + step.succ + 1 = made + 1 + step + 1 := by omega
  rw [Graph.nodeAfter?_succ next, List.getElem?_cons_succ, number]

/-! ## Accounts and walks -/

theorem walkConclusion_cons_iff {text : String} {total : Nat}
    {outcome : Except ActionError WalkEnd}
    (next : graph.successor? text start = some visit.node) (succeeded : visit.failure = none) :
    WalkConclusion graph text (limit + 1) start (visit :: visits) total outcome ↔
      ∃ count, total = count + 1 ∧
        WalkConclusion graph text limit visit.node visits count outcome := by
  constructor
  · intro conclusion
    cases conclusion with
    | @failed last failure isLast failed =>
        cases visits with
        | nil =>
            simp only [List.getLast?_singleton, Option.some.injEq] at isLast
            rw [← isLast, succeeded] at failed
            cases failed
        | cons second visits =>
            rw [List.getLast?_cons_cons] at isLast
            exact ⟨_, rfl, .failed isLast failed⟩
    | stepLimit all others =>
        refine ⟨limit, rfl, .stepLimit ?_ fun visit member => others visit (.tail _ member)⟩
        simpa using all
    | ended some_left others reached ends =>
        refine ⟨_, rfl, .ended ?_ (fun visit member => others visit (.tail _ member)) ?_ ends⟩
        · simpa using some_left
        · rwa [List.length_cons, Graph.nodeAfter?_succ next] at reached
  · rintro ⟨count, rfl, conclusion⟩
    have extended : (∀ visit ∈ visits, visit.failure = none) →
        ∀ other ∈ visit :: visits, other.failure = none := by
      intro others other member
      cases member with
      | head => exact succeeded
      | tail _ member => exact others other member
    cases conclusion with
    | failed isLast failed =>
        refine .failed ?_ failed
        rw [List.getLast?_cons, isLast]
        rfl
    | stepLimit all others =>
        exact .stepLimit (by simpa using all) (extended others)
    | ended some_left others reached ends =>
        refine .ended (by simpa using some_left) (extended others) ?_ ends
        rwa [List.length_cons, Graph.nodeAfter?_succ next]

theorem walkAccount_zero_iff :
    WalkAccount graph canGenerate orders context made 0 start visits progress history ↔
      visits = [] ∧ history = [] ∧ progress = ⟨[], .ok .stepLimit⟩ := by
  constructor
  · rintro ⟨length_le, -, -, -, rfl, count, conclusion, steps⟩
    have empty := List.length_eq_zero_iff.mp (Nat.le_zero.mp length_le)
    subst empty
    obtain ⟨entries, outcome⟩ := progress
    cases conclusion with
    | failed isLast failed => cases isLast
    | stepLimit all others =>
        change entries = [] at steps
        exact ⟨rfl, rfl, by rw [steps]⟩
    | ended some_left _ _ _ => cases some_left
  · rintro ⟨rfl, rfl, rfl⟩
    refine ⟨Nat.le_refl _, ?_, ?_, ?_, rfl, 0, .stepLimit rfl ?_, rfl⟩ <;> simp

theorem walkAccount_nil_iff :
    WalkAccount graph canGenerate orders context made (limit + 1) start [] progress history ↔
      ∃ ending, graph.EndsAt context.userText start ending ∧ history = [] ∧
        progress = ⟨graph.stepEntries context.userText (made + 1) start, .ok ending⟩ := by
  constructor
  · rintro ⟨-, -, -, -, rfl, count, conclusion, steps⟩
    obtain ⟨entries, outcome⟩ := progress
    cases conclusion with
    | failed isLast failed => cases isLast
    | stepLimit all others => cases all
    | ended _ _ reached ends =>
        cases reached
        change entries = walkSteps graph context.userText made start [] 1 at steps
        exact ⟨_, ends, rfl, by rw [steps, walkSteps_nil_one]⟩
  · rintro ⟨ending, ends, rfl, rfl⟩
    refine ⟨Nat.zero_le _, ?_, ?_, ?_, rfl, 1, ?_, walkSteps_nil_one.symm⟩
    · simp
    · simp
    · simp
    · exact .ended (Nat.zero_lt_succ limit) (by simp) rfl ends

theorem WalkAccount.next
    (account : WalkAccount graph canGenerate orders context made limit start (visit :: visits)
      progress history) : graph.successor? context.userText start = some visit.node :=
  account.node_eq 0 (Nat.zero_lt_succ _)

theorem walkAccount_cons_of_failure {failure : ActionError}
    (failed : visit.failure = some failure) :
    WalkAccount graph canGenerate orders context made (limit + 1) start (visit :: visits) progress
        history ↔
      graph.successor? context.userText start = some visit.node ∧
        visit.Allowed canGenerate (orders (made + 1)) context ∧ visits = [] ∧
        history = visit.events ∧
        progress = ⟨graph.stepEntries context.userText (made + 1) start ++ visit.entries,
          .error failure⟩ := by
  have steps_eq (next : graph.successor? context.userText start = some visit.node) :
      walkSteps graph context.userText made start [visit] 1 =
        graph.stepEntries context.userText (made + 1) start ++ visit.entries := by
    rw [walkSteps_cons next]
    simp [walkSteps]
  constructor
  · intro account
    have next := account.next
    obtain ⟨-, -, allowed, succeeded, rfl, count, conclusion, steps⟩ := account
    obtain ⟨entries, outcome⟩ := progress
    have last : visits = [] := by
      cases visits with
      | nil => rfl
      | cons second visits =>
          have passed := succeeded visit (by simp)
          rw [failed] at passed
          cases passed
    subst last
    refine ⟨next, allowed 0 (Nat.zero_lt_succ _), rfl, by simp, ?_⟩
    cases conclusion with
    | failed isLast other =>
        cases isLast
        cases failed.symm.trans other
        change entries = walkSteps graph context.userText made start [visit] 1 at steps
        rw [steps, steps_eq next]
    | stepLimit _ others | ended _ others _ _ =>
        cases failed.symm.trans (others visit (.head _))
  · rintro ⟨next, allowed, rfl, rfl, rfl⟩
    refine ⟨Nat.succ_le_succ (Nat.zero_le limit), ?_, ?_, ?_, by simp, 1, .failed rfl failed,
      (steps_eq next).symm⟩
    · intro i bound
      cases Nat.lt_one_iff.mp bound
      exact next
    · intro i bound
      cases Nat.lt_one_iff.mp bound
      exact allowed
    · simp

theorem walkAccount_cons_of_success (succeeded : visit.failure = none) :
    WalkAccount graph canGenerate orders context made (limit + 1) start (visit :: visits) progress
        history ↔
      graph.successor? context.userText start = some visit.node ∧
        visit.Allowed canGenerate (orders (made + 1)) context ∧
        ∃ rest after, WalkAccount graph canGenerate orders context (made + 1) limit visit.node
            visits after rest ∧
          history = visit.events ++ rest ∧
          progress = ⟨graph.stepEntries context.userText (made + 1) start ++ visit.entries ++
            after.steps, after.outcome⟩ := by
  constructor
  · intro account
    have next := account.next
    obtain ⟨length_le, node_eq, allowed, others, rfl, total, conclusion, steps⟩ := account
    obtain ⟨entries, outcome⟩ := progress
    obtain ⟨count, rfl, ended⟩ := (walkConclusion_cons_iff next succeeded).mp conclusion
    refine ⟨next, allowed 0 (Nat.zero_lt_succ _), visits.flatMap Visit.events,
      ⟨walkSteps graph context.userText (made + 1) visit.node visits count, outcome⟩,
      ⟨by simpa using length_le, ?_, ?_, ?_, rfl, count, ended, rfl⟩, by simp, ?_⟩
    · intro i bound
      have reached := node_eq (i + 1) (by simpa using bound)
      rwa [Graph.nodeAfter?_succ next] at reached
    · intro i bound
      have number : made + (i + 1) + 1 = made + 1 + i + 1 := by omega
      have later := allowed (i + 1) (by simpa using bound)
      rwa [number] at later
    · intro other member
      apply others other
      cases visits with
      | nil => cases member
      | cons second visits => exact .tail _ member
    · change entries = walkSteps graph context.userText made start (visit :: visits) _ at steps
      rw [steps, walkSteps_cons next]
  · rintro ⟨next, allowed, rest, ⟨entries, outcome⟩,
      ⟨length_le, node_eq, others, passed, rfl, count, conclusion, steps⟩, rfl, rfl⟩
    refine ⟨by simpa using length_le, ?_, ?_, ?_, by simp, count + 1,
      (walkConclusion_cons_iff next succeeded).mpr ⟨count, rfl, conclusion⟩, ?_⟩
    · intro i bound
      cases i with
      | zero => exact next
      | succ i =>
          rw [Graph.nodeAfter?_succ next]
          exact node_eq i (by simpa using bound)
    · intro i bound
      cases i with
      | zero => exact allowed
      | succ i =>
          have number : made + (i + 1) + 1 = made + 1 + i + 1 := by omega
          rw [number]
          exact others i (by simpa using bound)
    · intro other member
      cases visits with
      | nil => cases member
      | cons second visits =>
          cases member with
          | head => exact succeeded
          | tail _ member => exact passed other member
    · rw [walkSteps_cons next, ← steps]

/-- A walk goes on as an account of its remaining steps says. -/
theorem runs_walkFrom_iff :
    Runs (walkFrom graph canGenerate orders context left made start) history progress ↔
      ∃ visits,
        WalkAccount graph canGenerate orders context made left start visits progress history := by
  induction left generalizing made start progress history with
  | zero =>
      simp only [walkFrom, runs_pure_iff, walkAccount_zero_iff]
      constructor
      · intro ended
        exact ⟨[], rfl, ended⟩
      · rintro ⟨visits, -, ended⟩
        exact ended
  | succ left ih =>
      rw [runs_walkFrom_succ_iff]
      simp only [ih]
      constructor
      · rintro (ended | ⟨visit, failure, next, allowed, failed, rfl, rfl⟩ |
          ⟨visit, rest, after, next, allowed, succeeded, ⟨visits, account⟩, rfl, rfl⟩)
        · exact ⟨[], walkAccount_nil_iff.mpr ended⟩
        · exact ⟨[visit], (walkAccount_cons_of_failure failed).mpr ⟨next, allowed, rfl, rfl, rfl⟩⟩
        · exact ⟨visit :: visits, (walkAccount_cons_of_success succeeded).mpr
            ⟨next, allowed, rest, after, account, rfl, rfl⟩⟩
      · rintro ⟨visits, account⟩
        cases visits with
        | nil => exact .inl (walkAccount_nil_iff.mp account)
        | cons visit visits =>
            cases outcome : visit.failure with
            | some failure =>
                obtain ⟨next, allowed, rfl, rfl, rfl⟩ :=
                  (walkAccount_cons_of_failure outcome).mp account
                exact .inr (.inl ⟨visit, failure, next, allowed, outcome, rfl, rfl⟩)
            | none =>
                obtain ⟨next, allowed, rest, after, later, rfl, rfl⟩ :=
                  (walkAccount_cons_of_success outcome).mp account
                exact .inr (.inr ⟨visit, rest, after, next, allowed, outcome, ⟨visits, later⟩,
                  rfl, rfl⟩)

/-- In all surroundings, and in whatever orders prompts are filled in, a walk does exactly what an
account of fifty steps says that the surroundings answer. -/
theorem runIn_walk_eq_iff (graph : Graph) (canGenerate : Bool) (orders : Nat → VariableOrder)
    (context : RunContext) (start : Node)
    (surroundings : Program.Surroundings RunCall RunCall.Answer) (progress : Progress WalkEnd)
    (history : List RunEvent) :
    (walk graph canGenerate orders context start).runIn surroundings = (progress, history) ↔
      surroundings.Answers [] history ∧
        ∃ visits,
          WalkAccount graph canGenerate orders context 0 50 start visits progress history := by
  rw [Program.runIn_eq_iff, walk, stepLimit, runs_walkFrom_iff, and_comm]

end Chatflow
