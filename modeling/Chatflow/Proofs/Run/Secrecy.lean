import Chatflow.Description
import Chatflow.Proofs.Definition.Reading
import Chatflow.Proofs.Json.Text
import Chatflow.Proofs.Program.Pairing
import Chatflow.Proofs.Run.Alike
import Chatflow.Proofs.Setting

/-!
# Secrets do not show

A run hands the keys of agents to the text generator and uses them for nothing else, and it does not
look at the bot that it belongs to.  Runs that differ in such secrets only go alike, and what shows
values to whoever reads the log shows nothing of them.
-/

namespace Chatflow

open Json (Fields)
open List (Forall₂)
open Program (GoAlike Surroundings goAlike_ask)

/-! ## Values that differ in secrets -/

/-- The configs have the same settings but for the key, and both have one. -/
structure Json.Fields.SameButKey (first second : Fields) : Prop where
  settings : ∀ key, key ≠ "apiKey" → first.get? key = second.get? key
  given : ∃ secret, first.Says "apiKey" secret
  alsoGiven : ∃ secret, second.Says "apiKey" secret

/-- The nodes are the same, or they are agents with the same configs but for the key. -/
inductive NodeSpec.SameButKey : NodeSpec → NodeSpec → Prop
  | same (node : NodeSpec) : SameButKey node node
  | agent (node : NodeSpec) {first second : Fields} (type : node.type = "agent")
      (configs : first.SameButKey second) :
      SameButKey { node with data := { node.data with config := .given first } }
        { node with data := { node.data with config := .given second } }

structure Definition.SameButKeys (first second : Definition) : Prop where
  nodes : Forall₂ NodeSpec.SameButKey first.nodes second.nodes
  edges : first.edges = second.edges
  extra : first.extra = second.extra

def GenerationRequest.withoutKey (request : GenerationRequest) : GenerationRequest :=
  { request with apiKey := "" }

/-! ## Runs that differ in secrets -/

inductive RunCall.SameButKey : RunCall → RunCall → Prop
  | now : SameButKey now now
  | send (message : OutgoingMessage) : SameButKey (send message) (send message)
  | generate {request other : GenerationRequest} (same : request.withoutKey = other.withoutKey) :
      SameButKey (generate request) (generate other)

/-- The same call but for the key, with the same answer; times may differ. -/
inductive RunEvent.SameButKey : RunEvent → RunEvent → Prop
  | told {time other : Instant} : SameButKey (told time) (told other)
  | sent {message : OutgoingMessage} {answer : Except TransportError Receipt} :
      SameButKey (sent message answer) (sent message answer)
  | generated {request other : GenerationRequest} {answer : Except GenerationError String}
      (same : request.withoutKey = other.withoutKey) :
      SameButKey (generated request answer) (generated other answer)

/-- The surroundings have the same transport and the same text generator, and neither looks at the
keys of requests. -/
structure AgreeButKeys (first second : Surroundings RunCall RunCall.Answer) : Prop where
  send : ∀ past other, Forall₂ RunEvent.SameButKey past other → ∀ message,
    first past (.send message) = second other (.send message)
  generate : ∀ past other, Forall₂ RunEvent.SameButKey past other → ∀ request asked,
    request.withoutKey = asked.withoutKey → first past (.generate request) =
      second other (.generate asked)

theorem AgreeButKeys.answerAlike {first second : Surroundings RunCall RunCall.Answer}
    (agree : AgreeButKeys first second) :
    Surroundings.AnswerAlike RunCall.SameButKey RunEvent.SameButKey first second := by
  intro past other pasts request asked same
  cases same with
  | now => exact .told
  | send message =>
      rw [agree.send past other pasts message]
      exact .sent
  | @generate request asked same =>
      have answered := agree.generate past other pasts request asked same
      change RunEvent.SameButKey (.generated request (first past (.generate request)))
        (.generated asked (second other (.generate asked)))
      rw [answered]
      exact .generated same

/-- The programs make the same calls but for keys, and end with related values. -/
abbrev RunAlike {α β : Type} (values : α → β → Prop) :=
  GoAlike RunCall.SameButKey RunEvent.SameButKey values

/-! ## Agents and nodes -/

inductive Agent.SameButKey : Agent → Agent → Prop
  | same (agent : Agent) : SameButKey agent agent
  | keys (agent : Agent) (key other : String) :
      SameButKey { agent with apiKey := some key } { agent with apiKey := some other }

inductive Node.SameButKey : Node → Node → Prop
  | same (node : Node) : SameButKey node node
  | agent (id : NodeId) (label : String) {first second : Agent}
      (agents : first.SameButKey second) :
      SameButKey ⟨id, label, .agent first⟩ ⟨id, label, .agent second⟩

theorem Json.Fields.SameButKey.ofConfig {first second : Fields} (same : first.SameButKey second) :
    (Agent.ofConfig first).SameButKey (.ofConfig second) := by
  obtain ⟨key, said⟩ := same.given
  obtain ⟨other, alsoSaid⟩ := same.alsoGiven
  have setting (name : String) (different : name ≠ "apiKey") :
      textSetting? first name = textSetting? second name := by
    rw [textSetting?, textSetting?, same.settings name different]
  rw [Agent.ofConfig, Agent.ofConfig, textSetting?_eq_some_iff.mpr said,
    textSetting?_eq_some_iff.mpr alsoSaid, setting "provider" (by decide),
    setting "model" (by decide), setting "systemMessage" (by decide),
    setting "userMessage" (by decide)]
  exact .keys ⟨_, none, _, _, _⟩ key other

theorem Agent.SameButKey.request {agent other : Agent} (same : agent.SameButKey other)
    (order : VariableOrder) (context : RunContext) (bot : BotIdentity) :
    (∃ failure, agent.request order context = .error failure ∧
        other.request order { context with bot } = .error failure) ∨
      ∃ request asked, agent.request order context = .ok request ∧
        other.request order { context with bot } = .ok asked ∧
        request.withoutKey = asked.withoutKey := by
  cases same with
  | keys agent key other => exact .inr ⟨_, _, rfl, rfl, by cases order <;> rfl⟩
  | same agent =>
      have unseen : agent.request order { context with bot } = agent.request order context := by
        cases order <;> rfl
      rw [unseen]
      cases agent.request order context with
      | error failure => exact .inl ⟨failure, rfl, rfl⟩
      | ok request => exact .inr ⟨request, request, rfl, rfl, rfl⟩

theorem NodeSpec.SameButKey.ofSpec {first second : NodeSpec} (same : first.SameButKey second) :
    (Node.ofSpec first).SameButKey (.ofSpec second) := by
  cases same with
  | same node => exact .same _
  | @agent node first second type configs =>
      have kind (config : Fields) (label : String) :
          NodeKind.ofConfig node.type label config = .agent (.ofConfig config) := by
        simp [NodeKind.ofConfig, type]
      simp only [Node.ofSpec, Slot.value?, Option.getD_some, kind]
      exact .agent _ _ configs.ofConfig

/-! ## Graphs -/

structure Graph.SameButKeys (first second : Graph) : Prop where
  nodes : Forall₂ Node.SameButKey first.nodes second.nodes
  edges : first.edges = second.edges

theorem Definition.SameButKeys.ofDefinition {first second : Definition}
    (same : first.SameButKeys second) :
    (Graph.ofDefinition first).SameButKeys (.ofDefinition second) where
  nodes := List.rel_map (fun _ _ nodes => nodes.ofSpec) same.nodes
  edges := congrArg (List.map Edge.ofSpec) same.edges

namespace Node.SameButKey

variable {node other : Node} (same : node.SameButKey other)
include same

theorem id_eq : node.id = other.id := by
  cases same <;> rfl

theorem label_eq : node.label = other.label := by
  cases same <;> rfl

theorem typeName_eq : node.kind.typeName = other.kind.typeName := by
  cases same <;> rfl

end Node.SameButKey

theorem rel_find?_of_forall₂ {α β : Type} {related : α → β → Prop} {items : List α}
    {others : List β} {choose : α → Bool} {pick : β → Bool}
    (pairs : Forall₂ related items others) (alike : ∀ a b, related a b → choose a = pick b) :
    Option.Rel related (items.find? choose) (others.find? pick) := by
  induction pairs with
  | nil => exact .none
  | cons pair _ ih =>
      rw [List.find?_cons, List.find?_cons, ← alike _ _ pair]
      split
      · exact .some pair
      · exact ih

/-- Where a walk goes on: to related nodes, or in neither graph for the same reason. -/
inductive LeadsAlike : Except WalkEnd Node → Except WalkEnd Node → Prop
  | ended (ending : WalkEnd) : LeadsAlike (.error ending) (.error ending)
  | onward {target other : Node} (nodes : target.SameButKey other) :
      LeadsAlike (.ok target) (.ok other)

namespace Graph.SameButKeys

variable {first second : Graph} (same : first.SameButKeys second)
include same

theorem outgoing_eq (id : NodeId) : first.outgoing id = second.outgoing id := by
  rw [outgoing, outgoing, same.edges]

theorem rel_select (context : RunContext) (bot : BotIdentity) :
    Option.Rel Node.SameButKey (first.select context) (second.select { context with bot }) := by
  refine rel_find?_of_forall₂ same.nodes fun node other nodes => ?_
  cases nodes <;> rfl

theorem follow_leadsAlike (edge : Edge) : LeadsAlike (first.follow edge) (second.follow edge) := by
  have targets : Option.Rel Node.SameButKey (first.node? edge.target) (second.node? edge.target) :=
    rel_find?_of_forall₂ same.nodes fun _ _ nodes => by rw [nodes.id_eq]
  rw [follow, follow]
  generalize first.node? edge.target = target at targets ⊢
  generalize second.node? edge.target = other at targets ⊢
  cases targets with
  | none => exact .ended _
  | some nodes => exact .onward nodes

theorem next_leadsAlike {node other : Node} (nodes : node.SameButKey other) (text : String) :
    (first.next text node).1 = (second.next text other).1 ∧
      LeadsAlike (first.next text node).2 (second.next text other).2 := by
  rw [next, next, ← same.outgoing_eq, ← nodes.id_eq]
  cases first.outgoing node.id with
  | nil => exact ⟨rfl, .ended _⟩
  | cons edge edges =>
      cases nodes with
      | agent id label agents => exact ⟨rfl, same.follow_leadsAlike edge⟩
      | same node =>
          cases node.kind with
          | trigger _ | action _ | agent _ | other _ => exact ⟨rfl, same.follow_leadsAlike edge⟩
          | condition condition =>
              refine ⟨rfl, ?_⟩
              simp only
              cases (edge :: edges).find? (·.isBranch (condition.evaluate text).branch) with
              | none => exact .ended _
              | some chosen => exact same.follow_leadsAlike chosen

end Graph.SameButKeys

/-! ## Walks -/

variable {context : RunContext} {bot : BotIdentity} {canGenerate : Bool} {order : VariableOrder}
  {orders : Nat → VariableOrder}

theorem runAlike_deliver {node other : Node} (ids : node.id = other.id) (text : String)
    (options : SendOptions) :
    RunAlike Eq (deliver context node text options)
      (deliver { context with bot } other text options) := by
  refine (goAlike_ask (.send _)).bind fun answer given sent => ?_
  cases sent
  rw [← ids]
  cases answer <;> exact .done rfl

theorem runAlike_runAgent {node other : Node} (ids : node.id = other.id)
    (labels : node.label = other.label) {agent helper : Agent} (agents : agent.SameButKey helper) :
    RunAlike Eq (runAgent canGenerate order context node agent)
      (runAgent canGenerate order { context with bot } other helper) := by
  rw [runAgent, runAgent, labels, ids]
  cases canGenerate with
  | false => exact .done rfl
  | true =>
      simp only [Bool.not_true, Bool.false_eq_true, if_false]
      rcases agents.request order context bot with
        ⟨failure, keyless, alsoKeyless⟩ | ⟨request, asked, made, alsoMade, same⟩
      · simp only [keyless, alsoKeyless]
        exact .done rfl
      · simp only [made, alsoMade]
        refine (goAlike_ask (.generate same)).bind fun answer given generated => ?_
        cases generated
        cases answer with
        | error failure => exact .done rfl
        | ok reply => exact runAlike_deliver ids reply .markdown

theorem runAlike_execute {node other : Node} (nodes : node.SameButKey other) :
    RunAlike Eq (execute canGenerate order context node)
      (execute canGenerate order { context with bot } other) := by
  cases nodes with
  | agent id label agents => exact runAlike_runAgent rfl rfl agents
  | same node =>
      rw [execute, execute]
      cases node.kind with
      | trigger _ | condition _ | other _ => exact .done rfl
      | agent agent => exact runAlike_runAgent rfl rfl (.same agent)
      | action action =>
          cases action with
          | unsupported => exact .done rfl
          | sendMessage message buttons => exact runAlike_deliver rfl message _

theorem runAlike_walkFrom {first second : Graph} (same : first.SameButKeys second)
    (left made : Nat) {node other : Node} (nodes : node.SameButKey other) :
    RunAlike Eq (walkFrom first canGenerate orders context left made node)
      (walkFrom second canGenerate orders { context with bot } left made other) := by
  induction left generalizing made node other with
  | zero => exact .done rfl
  | succ left ih =>
      -- Where the walk goes on is settled before the next node runs, and no key has a part in it.
      obtain ⟨entries, leads⟩ := same.next_leadsAlike nodes context.userText
      rw [walkFrom, walkFrom, stepEntry, stepEntry, nodes.label_eq, nodes.typeName_eq]
      simp only [entries]
      generalize (first.next context.userText node).2 = found at leads ⊢
      generalize (second.next context.userText other).2 = reached at leads ⊢
      cases leads with
      | ended ending => exact .done rfl
      | onward nodes =>
          refine (runAlike_execute nodes).bind fun done _ same => ?_
          subst same
          cases done.outcome with
          | error failure => exact .done rfl
          | ok _ =>
              refine (ih (made + 1) nodes).bind fun rest _ same => ?_
              subst same
              exact .done rfl

/-! ## Runs -/

theorem runAlike_run {first second : Definition} {firstText secondText : Option String}
    (firstRead : Definition.parse firstText = .ok first)
    (secondRead : Definition.parse secondText = .ok second) (same : first.SameButKeys second)
    (workflowId : Option WorkflowId) :
    RunAlike (fun result other => result.untimed = other.untimed)
      (run firstText canGenerate orders workflowId context)
      (run secondText canGenerate orders workflowId { context with bot }) := by
  refine (goAlike_ask .now).bind fun startedAt begun _ => ?_
  simp only [firstRead, secondRead, runGraph]
  have selected := same.ofDefinition.rel_select context bot
  generalize (Graph.ofDefinition first).select context = trigger at selected ⊢
  generalize (Graph.ofDefinition second).select _ = other at selected ⊢
  cases selected with
  | none => exact .done rfl
  | @some trigger other nodes =>
      have walks : RunAlike Eq (walk (.ofDefinition first) canGenerate orders context trigger)
          (walk (.ofDefinition second) canGenerate orders { context with bot } other) :=
        runAlike_walkFrom same.ofDefinition stepLimit 0 nodes
      refine walks.bind fun progress _ same => (goAlike_ask .now).bind fun _ _ _ => ?_
      subst same
      have named : triggerName trigger = triggerName other := by
        rw [triggerName, triggerName, nodes.label_eq]
      refine .done ?_
      rw [RunResult.ofWalk, RunResult.ofWalk, named]
      rfl

/-! ## Descriptions -/

/-- No description tells secrets apart. -/
structure Description.HideSecrets : Prop where
  agent : ∀ (agent : Agent) (key other : String),
    Description.agent { agent with apiKey := some key } =
      Description.agent { agent with apiKey := some other }
  request : ∀ (request : GenerationRequest) (key : String),
    Description.request { request with apiKey := key } = Description.request request
  identity : ∀ (bot : BotIdentity) (token : String),
    Description.identity { bot with token } = Description.identity bot
  context : ∀ (context : RunContext) (token : String),
    Description.context { context with bot := { context.bot with token } } =
      Description.context context
  bot : ∀ (bot : BotRecord) (token : String),
    Description.bot { bot with token } = Description.bot bot
  client : ∀ (client : BotApi.Client) (token : String),
    Description.client { client with token } = Description.client client
  settings : ∀ (settings : Runner.Settings) (token other : String),
    Description.settings { settings with token := some token } =
      Description.settings { settings with token := some other }

theorem Description.hideSecrets : Description.HideSecrets where
  agent _ _ _ := rfl
  request _ _ := rfl
  identity _ _ := rfl
  context _ _ := rfl
  bot _ _ := rfl
  client _ _ := rfl
  settings _ _ _ := rfl

namespace RunEvent.SameButKey

variable {event other : RunEvent} (same : event.SameButKey other)
include same

theorem message?_eq : event.message? = other.message? := by
  cases same <;> rfl

theorem delivered?_eq : event.delivered? = other.delivered? := by
  cases same <;> rfl

theorem request?_eq :
    event.request?.map GenerationRequest.withoutKey =
      other.request?.map GenerationRequest.withoutKey := by
  cases same with
  | told | sent => rfl
  | generated same => exact congrArg some same

end RunEvent.SameButKey

/-- Runs that differ only in the keys of agents and in the bot, and that fill in prompts in the same
orders, whichever these are, have the same status, steps and error, send the same messages and ask
for the same texts but for the keys.  Nothing that is shown of values with secrets tells the
secrets. -/
theorem secrets_do_not_show {first second : Definition} {firstText secondText : Option String}
    (firstRead : Definition.parse firstText = .ok first)
    (secondRead : Definition.parse secondText = .ok second) (same : first.SameButKeys second)
    {here there : Surroundings RunCall RunCall.Answer} (agree : AgreeButKeys here there)
    (canGenerate : Bool) (orders : Nat → VariableOrder) (workflowId : Option WorkflowId)
    (context : RunContext) (bot : BotIdentity) :
    let one := (run firstText canGenerate orders workflowId context).runIn here
    let other := (run secondText canGenerate orders workflowId { context with bot }).runIn there
    (one.1.status = other.1.status ∧ one.1.steps = other.1.steps ∧ one.1.error = other.1.error ∧
      one.1.workflowId = other.1.workflowId) ∧
    attempted one.2 = attempted other.2 ∧ delivered one.2 = delivered other.2 ∧
    (requested one.2).map GenerationRequest.withoutKey =
      (requested other.2).map GenerationRequest.withoutKey ∧
    Description.HideSecrets := by
  intro one other
  have alike : RunAlike (fun result other => result.untimed = other.untimed)
      (run firstText canGenerate orders workflowId context)
      (run secondText canGenerate orders workflowId { context with bot }) :=
    runAlike_run firstRead secondRead same workflowId
  obtain ⟨results, histories⟩ := alike.runIn agree.answerAlike
  have fields := RunResult.mk.inj results
  refine ⟨⟨fields.1, fields.2.1, fields.2.2.1, fields.2.2.2.1⟩, ?_, ?_, ?_,
    Description.hideSecrets⟩
  · exact filterMap_eq_of_forall₂ histories fun _ _ same => same.message?_eq
  · exact filterMap_eq_of_forall₂ histories fun _ _ same => same.delivered?_eq
  · rw [requested, requested, List.map_filterMap, List.map_filterMap]
    exact filterMap_eq_of_forall₂ histories fun _ _ same => same.request?_eq

theorem secrets_do_not_show_keys :
    let trigger : NodeSpec :=
      { id := "1", type := "trigger", data := { label := .given "Command" } }
    let agent (key : String) : NodeSpec :=
      { id := "2", type := "agent", data := { config := .given [("apiKey", .string key)] } }
    let definition (key : String) : Definition :=
      { nodes := [trigger, agent key], edges := [{ source := "1", target := "2" }] }
    let context : RunContext := { bot := { token := "t" }, chat := 1, userText := "/start" }
    let bot : BotIdentity := { token := "u" }
    let surroundings : Surroundings RunCall RunCall.Answer := fun past request =>
      match request with
      | .now => Instant.ofUnixNanoseconds 0
      | .send _ => Except.ok ⟨.ofNat past.length⟩
      | .generate request => Except.ok request.user
    let orders : Nat → VariableOrder := fun _ => .nameFirst
    let one := (run (some (definition "k").text) true orders none context).runIn surroundings
    let other :=
      (run (some (definition "l").text) true orders none { context with bot }).runIn surroundings
    one.1.status = other.1.status ∧ attempted one.2 = attempted other.2 ∧
      (requested one.2).map GenerationRequest.withoutKey =
        (requested other.2).map GenerationRequest.withoutKey := by
  intro trigger agent definition context bot surroundings orders
  let stored (key : String) : Json := .object [
    ("edges", .array [.object [("source", .string "1"), ("target", .string "2")]]),
    ("nodes", .array [
      .object [("data", .object [("label", .string "Command")]), ("id", .string "1"),
        ("type", .string "trigger")],
      .object [("data", .object [("config", .object [("apiKey", .string key)])]),
        ("id", .string "2"), ("type", .string "agent")]])]
  have firstStored : Json.read? (definition "k").text = some (stored "k") :=
    (Json.read?_ofList _).trans (by decide +kernel)
  have secondStored : Json.read? (definition "l").text = some (stored "l") :=
    (Json.read?_ofList _).trans (by decide +kernel)
  have firstRead : Definition.parse (some (definition "k").text) = .ok (definition "k") :=
    (Definition.parse_of_read? firstStored).trans (by decide +kernel)
  have secondRead : Definition.parse (some (definition "l").text) = .ok (definition "l") :=
    (Definition.parse_of_read? secondStored).trans (by decide +kernel)
  have configs : Fields.SameButKey [("apiKey", .string "k")] [("apiKey", .string "l")] := by
    refine ⟨fun key different => ?_, ⟨"k", rfl, by decide⟩, ⟨"l", rfl, by decide⟩⟩
    simp [Fields.get?_cons, different.symm]
  have same : (definition "k").SameButKeys (definition "l") :=
    ⟨.cons (.same _) (.cons (.agent (agent "") rfl configs) .nil), rfl, rfl⟩
  have agree : AgreeButKeys surroundings surroundings := by
    refine ⟨fun past other pasts message => ?_, fun _ _ _ request asked same => ?_⟩
    · have length : past.length = other.length := pasts.length_eq
      change Except.ok _ = Except.ok _
      rw [length]
    · have user : request.user = asked.user := (GenerationRequest.mk.inj same).2.2.2.2
      exact congrArg Except.ok user
  have hidden := secrets_do_not_show firstRead secondRead same agree true orders none context bot
  exact ⟨hidden.1.1, hidden.2.1, hidden.2.2.2.1⟩

end Chatflow
