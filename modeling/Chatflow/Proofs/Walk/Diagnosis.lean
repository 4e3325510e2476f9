import Chatflow.Proofs.Graph.Chain
import Chatflow.Proofs.Walk.Reference
import Mathlib.Data.Finset.Card
import Mathlib.Data.Finset.Range

/-!
# What diagnostics say about walks

A walk follows links until it ends, so it ends at a missing node only along a dangling edge.  A walk
that comes to an id a second time goes round from there, and one of fifty steps comes to some id a
second time unless there are more than fifty.
-/

namespace Chatflow

open Program (Runs)
open Relation (TransGen)

namespace Graph

variable {graph : Graph} {text : String} {start node target : Node} {ending : WalkEnd}
  {i j steps : Nat}

/-! ## The way of a walk -/

theorem successor?_eq_some (next : graph.successor? text node = some target) :
    ∃ edge, graph.chosenEdge? text node = some edge ∧ target.id = edge.target ∧
      graph.node? target.id = some target := by
  obtain ⟨edge, chosen, found⟩ := Option.bind_eq_some_iff.mp next
  have same : target.id = edge.target := beq_iff_eq.mp (List.find?_some found :)
  refine ⟨edge, chosen, same, ?_⟩
  rw [node?, same]
  exact found

theorem mem_of_node?_eq_some {id : NodeId} (found : graph.node? id = some node) :
    node ∈ graph.nodes :=
  List.mem_of_find?_eq_some found

theorem linked_of_successor? (member : node ∈ graph.nodes)
    (next : graph.successor? text node = some target) : Linked graph.links node.id target.id := by
  obtain ⟨edge, chosen, same, found⟩ := successor?_eq_some next
  obtain ⟨inside, source, -⟩ := chosenEdge?_eq_some chosen
  have first : edge.source ∈ graph.ids := mem_ids_iff.mpr ⟨node, member, source.symm⟩
  have last : edge.target ∈ graph.ids :=
    mem_ids_iff.mpr ⟨target, mem_of_node?_eq_some found, same⟩
  rw [← source, same]
  exact linked_of_edge inside first last

theorem EndsAt.successor?_eq_none (ends : graph.EndsAt text node ending) :
    graph.successor? text node = none := by
  cases next : graph.successor? text node with
  | none => rfl
  | some target =>
      have found := next_eq_ok_iff.mpr next
      rw [next_eq_error_iff.mpr ends] at found
      cases found

theorem exists_nodeAfter?_of_succ (reached : graph.nodeAfter? text start (steps + 1) = some target) :
    ∃ node, graph.nodeAfter? text start steps = some node ∧
      graph.successor? text node = some target :=
  Option.bind_eq_some_iff.mp reached

theorem exists_nodeAfter?_of_le (reached : graph.nodeAfter? text start j = some target)
    (earlier : i ≤ j) : ∃ node, graph.nodeAfter? text start i = some node := by
  induction j generalizing target with
  | zero =>
      have same : i = 0 := by omega
      rw [same]
      exact ⟨target, reached⟩
  | succ j ih =>
      obtain ⟨node, before, -⟩ := exists_nodeAfter?_of_succ reached
      by_cases last : i = j + 1
      · rw [last]
        exact ⟨target, reached⟩
      · have inside : i ≤ j := by omega
        exact ih before inside

theorem mem_nodes_of_nodeAfter? (member : start ∈ graph.nodes)
    (reached : graph.nodeAfter? text start steps = some node) : node ∈ graph.nodes := by
  cases steps with
  | zero =>
      cases reached
      exact member
  | succ steps =>
      obtain ⟨before, -, next⟩ := exists_nodeAfter?_of_succ reached
      obtain ⟨edge, -, -, found⟩ := successor?_eq_some next
      exact mem_of_node?_eq_some found

theorem transGen_of_nodeAfter? (member : start ∈ graph.nodes) {first last : Node}
    (left : graph.nodeAfter? text start i = some first)
    (reached : graph.nodeAfter? text start j = some last) (later : i < j) :
    TransGen (Linked graph.links) first.id last.id := by
  induction j generalizing last with
  | zero => omega
  | succ j ih =>
      obtain ⟨node, before, next⟩ := exists_nodeAfter?_of_succ reached
      have link := linked_of_successor? (mem_nodes_of_nodeAfter? member before) next
      by_cases start_of_chain : i = j
      · subst start_of_chain
        rw [left] at before
        cases before
        exact .single link
      · have inside : i < j := by omega
        exact .tail (ih before inside) link

/-! ## Going round -/

theorem hasCycle_of_nodeAfter? (member : start ∈ graph.nodes) {first second : Node}
    (left : graph.nodeAfter? text start i = some first)
    (reached : graph.nodeAfter? text start j = some second) (later : i < j)
    (same : first.id = second.id) : graph.hasCycle = true := by
  have chain := transGen_of_nodeAfter? member left reached later
  rw [← same] at chain
  exact isCyclic_iff.mpr ⟨_, chain⟩

theorem hasCycle_of_many_steps (member : start ∈ graph.nodes)
    (reached : graph.nodeAfter? text start steps = some node)
    (few : (graph.nodes.map Node.id).toFinset.card ≤ steps) : graph.hasCycle = true := by
  have visited : ∀ i ∈ Finset.range (steps + 1),
      ((graph.nodeAfter? text start i).elim "" Node.id) ∈ (graph.nodes.map Node.id).toFinset := by
    intro i bound
    obtain ⟨node, found⟩ := exists_nodeAfter?_of_le (i := i) reached
      (Nat.lt_succ_iff.mp (Finset.mem_range.mp bound))
    rw [found, List.mem_toFinset]
    exact List.mem_map_of_mem (mem_nodes_of_nodeAfter? member found)
  have fewer : (graph.nodes.map Node.id).toFinset.card < (Finset.range (steps + 1)).card := by
    rw [Finset.card_range]
    omega
  obtain ⟨i, hi, j, hj, different, same⟩ :=
    Finset.exists_ne_map_eq_of_card_lt_of_maps_to fewer visited
  rw [Finset.mem_range] at hi hj
  obtain ⟨first, left⟩ := exists_nodeAfter?_of_le (i := i) reached (by omega)
  obtain ⟨second, right⟩ := exists_nodeAfter?_of_le (i := j) reached (by omega)
  simp only [left, right, Option.elim] at same
  rcases Nat.lt_or_gt_of_ne different with before | after
  · exact hasCycle_of_nodeAfter? member left right before same
  · exact hasCycle_of_nodeAfter? member right left after same.symm

/-- Two nodes that a walk comes to are the same as soon as their ids are. -/
theorem nodeAfter?_eq_of_id {first second : Node}
    (left : graph.nodeAfter? text start (i + 1) = some first)
    (right : graph.nodeAfter? text start (j + 1) = some second) (same : first.id = second.id) :
    graph.nodeAfter? text start (i + 1) = graph.nodeAfter? text start (j + 1) := by
  obtain ⟨_, -, firstNext⟩ := exists_nodeAfter?_of_succ left
  obtain ⟨_, -, secondNext⟩ := exists_nodeAfter?_of_succ right
  obtain ⟨_, -, -, firstFound⟩ := successor?_eq_some firstNext
  obtain ⟨_, -, -, secondFound⟩ := successor?_eq_some secondNext
  rw [left, right, ← firstFound, ← secondFound, same]

theorem nodeAfter?_add_eq (same : graph.nodeAfter? text start i = graph.nodeAfter? text start j)
    (more : Nat) :
    graph.nodeAfter? text start (i + more) = graph.nodeAfter? text start (j + more) := by
  induction more with
  | zero => exact same
  | succ more ih =>
      change (graph.nodeAfter? text start (i + more)).bind _ =
        (graph.nodeAfter? text start (j + more)).bind _
      rw [ih]

/-- A walk that ends at a node came to no id twice: otherwise it would have gone on from there as
it did before. -/
theorem EndsAt.id_ne (ends : graph.EndsAt text node ending)
    (reached : graph.nodeAfter? text start steps = some node) {first second : Node}
    (left : graph.nodeAfter? text start (i + 1) = some first)
    (right : graph.nodeAfter? text start (j + 1) = some second) (later : i < j)
    (inside : j + 1 ≤ steps) : first.id ≠ second.id := by
  intro same
  have round := nodeAfter?_add_eq (nodeAfter?_eq_of_id left right same) (steps - j)
  have last : j + 1 + (steps - j) = steps + 1 := by omega
  have finished : graph.nodeAfter? text start (steps + 1) = none := by
    simp [nodeAfter?, reached, ends.successor?_eq_none]
  rw [last, finished] at round
  obtain ⟨again, found⟩ :=
    exists_nodeAfter?_of_le (i := i + 1 + (steps - j)) reached (by omega)
  rw [round] at found
  cases found

end Graph

/-! ## Walks and diagnostics -/

/-- What the diagnostics of a graph tell about a walk with some visits. -/
structure WalkDiagnosed (graph : Graph) (text : String) (start : Node) (visits : List Visit)
    (outcome : Except ActionError WalkEnd) : Prop where
  dangling : outcome = .ok .unresolvedTarget →
    ∃ last edge, graph.nodeAfter? text start visits.length = some last ∧
      graph.chosenEdge? text last = some edge ∧ edge ∈ graph.diagnostics.danglingEdges
  cyclic : (graph.nodes.map Node.id).toFinset.card ≤ 50 → outcome = .ok .stepLimit →
    graph.diagnostics.hasCycle = true
  repeated : (∀ failure, outcome ≠ .error failure) →
    ∀ (i j : Nat) (first : i < visits.length) (second : j < visits.length), i ≠ j →
      visits[i].node.id = visits[j].node.id → outcome = .ok .stepLimit
  settled : ∀ definition, graph = .ofDefinition definition → definition.nodes.length ≤ 50 →
    graph.diagnostics.danglingEdges = [] → graph.diagnostics.hasCycle = false →
    (∃ failure, outcome = .error failure) ∨
      ∃ last ending, graph.nodeAfter? text start visits.length = some last ∧
        outcome = .ok ending ∧ graph.EndsAt text last ending ∧
        (ending = .noOutgoingEdge ∨ ending = .noMatchingBranch)

variable {graph : Graph} {canGenerate : Bool} {orders : Nat → VariableOrder} {context : RunContext}
  {made limit count : Nat} {start : Node} {visits : List Visit} {progress : Progress WalkEnd}
  {history : List RunEvent} {text : String} {outcome : Except ActionError WalkEnd}

theorem WalkConclusion.dangling
    (conclusion : WalkConclusion graph text limit start visits count outcome)
    (unresolved : outcome = .ok .unresolvedTarget) :
    ∃ last edge, graph.nodeAfter? text start visits.length = some last ∧
      graph.chosenEdge? text last = some edge ∧ edge ∈ graph.danglingEdges := by
  cases conclusion with
  | failed _ _ => cases unresolved
  | stepLimit _ _ => cases unresolved
  | ended _ _ reached ends =>
      cases unresolved
      cases ends with
      | @unresolvedTarget edge chosen missing =>
          obtain ⟨member, -, -⟩ := Graph.chosenEdge?_eq_some chosen
          refine ⟨_, edge, reached, chosen, Graph.mem_danglingEdges_iff.mpr ⟨member, ?_⟩⟩
          rintro ⟨-, known⟩
          obtain ⟨target, inside, same⟩ := Graph.mem_ids_iff.mp known
          exact missing target inside same

theorem WalkConclusion.length_eq_of_stepLimit
    (conclusion : WalkConclusion graph text limit start visits count outcome)
    (limited : outcome = .ok .stepLimit) : visits.length = limit := by
  cases conclusion with
  | failed _ _ => cases limited
  | stepLimit all _ => exact all
  | ended _ _ _ ends =>
      cases limited
      cases ends

theorem WalkAccount.nodeAfter?_length
    (account : WalkAccount graph canGenerate orders context made limit start visits progress
      history) :
    ∃ last, graph.nodeAfter? context.userText start visits.length = some last := by
  cases all : visits.length with
  | zero => exact ⟨start, rfl⟩
  | succ before => exact ⟨_, account.node_eq before (by omega)⟩

theorem WalkAccount.cyclic
    (account : WalkAccount graph canGenerate orders context made limit start visits progress
      history)
    (member : start ∈ graph.nodes) (few : (graph.nodes.map Node.id).toFinset.card ≤ limit)
    (limited : progress.outcome = .ok .stepLimit) : graph.hasCycle = true := by
  obtain ⟨count, conclusion, -⟩ := account.conclusion
  obtain ⟨last, reached⟩ := account.nodeAfter?_length
  rw [conclusion.length_eq_of_stepLimit limited] at reached
  exact Graph.hasCycle_of_many_steps member reached few

theorem WalkAccount.repeated
    (account : WalkAccount graph canGenerate orders context made limit start visits progress
      history)
    (succeeded : ∀ failure, progress.outcome ≠ .error failure) {i j : Nat} (later : i < j)
    (second : j < visits.length) (same : visits[i].node.id = visits[j].node.id) :
    progress.outcome = .ok .stepLimit := by
  obtain ⟨count, conclusion, -⟩ := account.conclusion
  have left := account.node_eq i (by omega)
  have right := account.node_eq j second
  cases outcome : progress.outcome with
  | error failure => exact absurd outcome (succeeded failure)
  | ok ending =>
      rw [outcome] at conclusion
      cases conclusion with
      | stepLimit _ _ => rfl
      | ended _ _ reached ends =>
          exact absurd same (ends.id_ne reached left right later (by omega))

theorem WalkAccount.diagnosed
    (account : WalkAccount graph canGenerate orders context made 50 start visits progress history)
    (member : start ∈ graph.nodes) :
    WalkDiagnosed graph context.userText start visits progress.outcome := by
  obtain ⟨count, conclusion, -⟩ := account.conclusion
  have dangling := conclusion.dangling
  refine ⟨dangling, account.cyclic member, ?_, ?_⟩
  · intro succeeded i j first second different same
    rcases Nat.lt_or_gt_of_ne different with before | after
    · exact account.repeated succeeded before second same
    · exact account.repeated succeeded after first same.symm
  · intro definition ofDefinition few undangling acyclic
    have nodes : graph.nodes.length = definition.nodes.length := by
      rw [ofDefinition, Graph.ofDefinition, List.length_map]
    have distinct : (graph.nodes.map Node.id).toFinset.card ≤ 50 := by
      have bound := List.toFinset_card_le (graph.nodes.map Node.id)
      rw [List.length_map] at bound
      omega
    cases outcome : progress.outcome with
    | error failure => exact .inl ⟨failure, rfl⟩
    | ok ending =>
        rw [outcome] at conclusion
        cases conclusion with
        | stepLimit _ _ =>
            have cyclic := account.cyclic member distinct outcome
            change graph.hasCycle = false at acyclic
            rw [cyclic] at acyclic
            cases acyclic
        | ended _ _ reached ends =>
            refine .inr ⟨_, ending, reached, rfl, ends, ?_⟩
            cases ends with
            | noOutgoingEdge _ => exact .inl rfl
            | noMatchingBranch _ _ _ _ => exact .inr rfl
            | unresolvedTarget _ _ =>
                obtain ⟨_, edge, -, -, found⟩ := dangling outcome
                change graph.danglingEdges = [] at undangling
                rw [undangling] at found
                cases found

/-- The diagnostics of a graph tell the truth about every walk that starts at one of its nodes. -/
theorem runIn_walk_diagnosed (graph : Graph) (canGenerate : Bool) (orders : Nat → VariableOrder)
    (context : RunContext) (start : Node) (member : start ∈ graph.nodes)
    (surroundings : Program.Surroundings RunCall RunCall.Answer) :
    let ran := (walk graph canGenerate orders context start).runIn surroundings
    (∃ visits, WalkAccount graph canGenerate orders context 0 50 start visits ran.1 ran.2) ∧
      ∀ visits, WalkAccount graph canGenerate orders context 0 50 start visits ran.1 ran.2 →
        WalkDiagnosed graph context.userText start visits ran.1.outcome := by
  intro ran
  have runs := Program.runs_runIn surroundings (walk graph canGenerate orders context start)
  exact ⟨runs_walkFrom_iff.mp runs, fun visits account => account.diagnosed member⟩

theorem runIn_walk_diagnosed_menu :
    let start : Node := ⟨"start", "Command", .trigger (.ofConfig "Command" [])⟩
    let menu : Node := ⟨"menu", "Send Message", .action (.sendMessage "Choose" [])⟩
    let graph : Graph := {
      nodes := [start, menu]
      edges := [{ source := "start", target := "menu" }, { source := "menu", target := "start" }] }
    let context : RunContext := { chat := 1, userText := "/start" }
    let orders : Nat → VariableOrder := fun _ => .textFirst
    let surroundings : Program.Surroundings RunCall RunCall.Answer := fun past request =>
      match request with
      | .now => Instant.ofUnixNanoseconds 0
      | .send _ => Except.ok ⟨.ofNat past.length⟩
      | .generate _ => Except.ok "text"
    start ∈ graph.nodes ∧
      ((walk graph false orders context start).runIn surroundings).1.outcome = .ok .stepLimit ∧
      graph.diagnostics.hasCycle = true := by
  intro start menu graph context orders surroundings
  have member : start ∈ graph.nodes := .head _
  have limited :
      ((walk graph false orders context start).runIn surroundings).1.outcome = .ok .stepLimit := by
    decide +kernel
  have few : (graph.nodes.map Node.id).toFinset.card ≤ 50 := by decide
  obtain ⟨⟨visits, account⟩, diagnosed⟩ :=
    runIn_walk_diagnosed graph false orders context start member surroundings
  exact ⟨member, limited, (diagnosed visits account).cyclic few limited⟩

end Chatflow
