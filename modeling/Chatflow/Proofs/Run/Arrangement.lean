import Chatflow.Proofs.Run.Agreement
import Mathlib.Data.List.Forall2

/-!
# Definitions that say the same

A run does not depend on extra fields, on the ids of edges, or on whether a field is `null` or not
there.  Nor does it depend on the order of nodes and edges, as long as triggers, nodes with one id,
and edges that start at one id each follow each other as before.
-/

namespace Chatflow

open List (Forall₂)

/-! ## Parts that say the same -/

structure NodeSpec.SaysTheSame (first second : NodeSpec) : Prop where
  id : first.id = second.id
  type : first.type = second.type
  label : first.data.label.value? = second.data.label.value?
  config : first.data.config.value? = second.data.config.value?

structure EdgeSpec.SaysTheSame (first second : EdgeSpec) : Prop where
  source : first.source = second.source
  target : first.target = second.target
  sourceHandle : first.sourceHandle.value? = second.sourceHandle.value?

/-- The same nodes in an order that keeps that of triggers and that of nodes with one id. -/
structure NodeSpec.Reordered (nodes others : List NodeSpec) : Prop where
  perm : nodes.Perm others
  triggers : nodes.filter (·.type == "trigger") = others.filter (·.type == "trigger")
  withId : ∀ id, nodes.filter (·.id == id) = others.filter (·.id == id)

/-- The same edges in an order that keeps that of edges which start at one id. -/
structure EdgeSpec.Reordered (edges others : List EdgeSpec) : Prop where
  perm : edges.Perm others
  withSource : ∀ source, edges.filter (·.source == source) = others.filter (·.source == source)

/-- The second definition is the first one reordered, with other extra fields and ids of edges. -/
structure Definition.Rearranged (first second : Definition) : Prop where
  nodes : ∃ nodes, NodeSpec.Reordered first.nodes nodes ∧
    Forall₂ NodeSpec.SaysTheSame nodes second.nodes
  edges : ∃ edges, EdgeSpec.Reordered first.edges edges ∧
    Forall₂ EdgeSpec.SaysTheSame edges second.edges

/-! ## What graphs have of definitions -/

theorem NodeSpec.SaysTheSame.ofSpec_eq {first second : NodeSpec} (same : first.SaysTheSame second) :
    Node.ofSpec first = Node.ofSpec second := by
  simp only [Node.ofSpec, same.id, same.type, same.label, same.config]

theorem EdgeSpec.SaysTheSame.exit_eq {first second : EdgeSpec} (same : first.SaysTheSame second) :
    (Edge.ofSpec first).exit = (Edge.ofSpec second).exit := by
  simp only [Edge.exit, Edge.ofSpec, same.target, same.sourceHandle]

theorem isTrigger_ofSpec (spec : NodeSpec) :
    (Node.ofSpec spec).kind.isTrigger = (spec.type == "trigger") := by
  simp only [Node.ofSpec, NodeKind.ofConfig]
  by_cases trigger : spec.type = "trigger"
  · rw [if_pos trigger, trigger]
    rfl
  · rw [if_neg trigger, beq_eq_false_iff_ne.mpr trigger]
    split
    · rfl
    · split
      · rfl
      · split <;> rfl

namespace Graph

variable (definition : Definition) (id : NodeId)

theorem triggers_ofDefinition :
    (ofDefinition definition).triggers =
      (definition.nodes.filter (·.type == "trigger")).map Node.ofSpec := by
  rw [triggers, ofDefinition, List.filter_map]
  exact congrArg _ (List.filter_congr fun spec _ => isTrigger_ofSpec spec)

theorem node?_ofDefinition :
    (ofDefinition definition).node? id =
      ((definition.nodes.filter (·.id == id)).map Node.ofSpec).head? := by
  rw [node?, ofDefinition, ← List.head?_filter, List.filter_map]
  rfl

theorem exits_ofDefinition :
    (ofDefinition definition).exits id =
      (definition.edges.filter (·.source == id)).map fun spec => (Edge.ofSpec spec).exit := by
  rw [exits, outgoing, ofDefinition, List.filter_map, List.map_map]
  rfl

end Graph

theorem map_filter_eq_of_forall₂ {α β : Type} {related : α → α → Prop} {choose : α → Bool}
    {image : α → β} {first second : List α} (pairs : Forall₂ related first second)
    (chosen : ∀ a b, related a b → choose a = choose b)
    (same : ∀ a b, related a b → image a = image b) :
    (first.filter choose).map image = (second.filter choose).map image := by
  induction pairs with
  | nil => rfl
  | cons pair _ ih =>
      rw [List.filter_cons, List.filter_cons, ← chosen _ _ pair]
      split
      · rw [List.map_cons, List.map_cons, same _ _ pair, ih]
      · exact ih

namespace Definition.Rearranged

variable {first second : Definition} (rearranged : first.Rearranged second)
include rearranged

theorem triggers_eq :
    (Graph.ofDefinition first).triggers = (Graph.ofDefinition second).triggers := by
  obtain ⟨nodes, reordered, pairs⟩ := rearranged.nodes
  rw [Graph.triggers_ofDefinition, Graph.triggers_ofDefinition, reordered.triggers]
  exact map_filter_eq_of_forall₂ pairs (fun _ _ same => congrArg (· == "trigger") same.type)
    fun _ _ same => same.ofSpec_eq

theorem node?_eq (id : NodeId) :
    (Graph.ofDefinition first).node? id = (Graph.ofDefinition second).node? id := by
  obtain ⟨nodes, reordered, pairs⟩ := rearranged.nodes
  rw [Graph.node?_ofDefinition, Graph.node?_ofDefinition, reordered.withId id]
  exact congrArg List.head? (map_filter_eq_of_forall₂ pairs
    (fun _ _ same => congrArg (· == id) same.id) fun _ _ same => same.ofSpec_eq)

theorem exits_eq (id : NodeId) :
    (Graph.ofDefinition first).exits id = (Graph.ofDefinition second).exits id := by
  obtain ⟨edges, reordered, pairs⟩ := rearranged.edges
  rw [Graph.exits_ofDefinition, Graph.exits_ofDefinition, reordered.withSource id]
  exact map_filter_eq_of_forall₂ pairs (fun _ _ same => congrArg (· == id) same.source)
    fun _ _ same => same.exit_eq

theorem leadAlike (text : String) :
    (Graph.ofDefinition first).LeadAlike (.ofDefinition second) text fun _ => True where
  next_eq node _ := Graph.next_congr (rearranged.exits_eq node.id) fun exit _ =>
    rearranged.node?_eq exit.1
  kept_next _ _ _ _ := trivial

end Definition.Rearranged

/-- Definitions that say the same are run in the same way if their prompts are filled in in the same
orders, whichever these are: the results are the same, and so are all calls that are made. -/
theorem runIn_run_rearranged {first second : Definition} {firstText secondText : Option String}
    (firstRead : Definition.parse firstText = .ok first)
    (secondRead : Definition.parse secondText = .ok second) (rearranged : first.Rearranged second)
    (canGenerate : Bool) (orders : Nat → VariableOrder) (workflowId : Option WorkflowId)
    (context : RunContext) (surroundings : Program.Surroundings RunCall RunCall.Answer) :
    (run secondText canGenerate orders workflowId context).runIn surroundings =
      (run firstText canGenerate orders workflowId context).runIn surroundings := by
  have alike := rearranged.leadAlike context.userText
  rw [run_eq_of_leadAlike firstRead secondRead alike rearranged.triggers_eq fun _ _ => trivial]

theorem runIn_run_rearranged_menu :
    let start := "\x7b\"id\":\"1\",\"type\":\"trigger\",\"data\":\x7b\"label\":\"Command\"\x7d\x7d"
    let menu := "\x7b\"id\":\"2\",\"x\":7\x7d"
    let other := "\x7b\"id\":\"2\",\"data\":\x7b\"label\":null\x7d\x7d"
    let firstText := "\x7b\"nodes\":[" ++ start ++ "," ++ menu ++ "]\x7d"
    let secondText := "\x7b\"nodes\":[" ++ other ++ "," ++ start ++ "],\"edges\":null\x7d"
    let trigger : NodeSpec := { id := "1", type := "trigger", data := { label := .given "Command" } }
    let seven : Json := .number (.whole ⟨7, by decide⟩)
    let first : Definition := { nodes := [trigger, { id := "2", extra := [("x", seven)] }] }
    let second : Definition := { nodes := [{ id := "2", data := { label := .null } }, trigger] }
    let context : RunContext := { chat := 1, userText := "/start" }
    let orders : Nat → VariableOrder := fun _ => .nameFirst
    let surroundings : Program.Surroundings RunCall RunCall.Answer := fun past request =>
      match request with
      | .now => Instant.ofUnixNanoseconds 0
      | .send _ => Except.ok ⟨.ofNat past.length⟩
      | .generate _ => Except.ok "text"
    Definition.parse (some firstText) = .ok first ∧
      Definition.parse (some secondText) = .ok second ∧ first.Rearranged second ∧
      (run (some secondText) false orders none context).runIn surroundings =
        (run (some firstText) false orders none context).runIn surroundings := by
  intro start menu other firstText secondText trigger seven first second context orders
    surroundings
  have firstRead : Definition.parse (some firstText) = .ok first := by decide +kernel
  have secondRead : Definition.parse (some secondText) = .ok second := by decide +kernel
  have rearranged : first.Rearranged second := by
    refine ⟨⟨[{ id := "2", extra := [("x", seven)] }, trigger], ?_, ?_⟩, ⟨[], ?_, .nil⟩⟩
    · refine ⟨.swap _ _ _, by decide, fun id => ?_⟩
      by_cases one : "1" = id <;> by_cases two : "2" = id <;> simp [first, trigger, one, two]
      exact absurd (one.trans two.symm) (by decide)
    · exact .cons ⟨rfl, rfl, rfl, rfl⟩ (.cons ⟨rfl, rfl, rfl, rfl⟩ .nil)
    · exact ⟨.refl _, fun _ => rfl⟩
  exact ⟨firstRead, secondRead, rearranged,
    runIn_run_rearranged firstRead secondRead rearranged false orders none context surroundings⟩

end Chatflow
