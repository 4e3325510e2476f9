import Chatflow.Proofs.Definition.Reading
import Chatflow.Proofs.Pattern.Search
import Chatflow.Proofs.Run.Alike
import Chatflow.Proofs.Run.Arrangement
import Chatflow.Proofs.Run.Outcome
import Chatflow.Proofs.Setting

/-!
# Where a run starts

Which stored nodes start a run is told by their type, label and config as they stand in the stored
text.  The run starts at the first of them, and matches nothing if there is none.
-/

namespace Chatflow

open Json (Fields)
open List (Forall₂)
open Pattern (Spans)
open Program (Runs)
open Text (lower trim)

/-! ## When a trigger starts -/

/-- A typed text is what the config of a message trigger asks for. -/
inductive FitsMessage (config : Fields) (text : String) : Prop
  | anything (free : config.IsSilent "pattern")
  | exact {pattern : String} (given : config.Says "pattern" pattern)
      (kind : config.IsSilent "matchType" ∨ config.Says "matchType" "exact")
      (same : lower text = lower pattern)
  | contains {pattern : String} (given : config.Says "pattern" pattern)
      (kind : config.Says "matchType" "contains")
      (part : (lower pattern).toList <:+: (lower text).toList)
  | regex {pattern : String} {compiled : Pattern} {start stop : Nat}
      (given : config.Says "pattern" pattern) (kind : config.Says "matchType" "regex")
      (compiles : Pattern.ofText? ("(?i)" ++ pattern) = some compiled)
      (inside : start ≤ text.toList.length) (spans : compiled.Spans text.toList start stop)

/-- A trigger with the label and config starts on the text, which a button sent or someone typed. -/
inductive StartsOnText (label : String) (config : Fields) (text : String) (isCallback : Bool) : Prop
  | command {command : String} (given : config.Says "command" command)
      (same : lower (trim text) = lower (trim command))
  | label (free : config.IsSilent "command") (named : "Command".toList <:+: label.toList)
      (same : lower (trim text) = lower (trim "/start"))
  | message (free : config.IsSilent "command") (other : ¬ "Command".toList <:+: label.toList)
      (named : "Message".toList <:+: label.toList) (typed : isCallback = false)
      (fits : FitsMessage config text)

section Triggers

variable {config : Fields} {label text : String} {isCallback : Bool}

theorem MessageRule.accepts_ofPattern_iff {pattern : String} :
    (ofPattern pattern).accepts text = true ↔
      ∃ compiled start stop, Pattern.ofText? ("(?i)" ++ pattern) = some compiled ∧
        start ≤ text.toList.length ∧ compiled.Spans text.toList start stop := by
  rw [ofPattern, caseless]
  cases Pattern.ofText? ("(?i)" ++ pattern) with
  | none => simp [accepts]
  | some compiled => simp [accepts, Pattern.isFoundIn_iff]

theorem fitsMessage_iff {pattern : String} (given : config.Says "pattern" pattern) :
    FitsMessage config text ↔
      ((config.IsSilent "matchType" ∨ config.Says "matchType" "exact") ∧
        lower text = lower pattern) ∨
      (config.Says "matchType" "contains" ∧ (lower pattern).toList <:+: (lower text).toList) ∨
      config.Says "matchType" "regex" ∧ (MessageRule.ofPattern pattern).accepts text = true := by
  rw [MessageRule.accepts_ofPattern_iff]
  constructor
  · intro fits
    cases fits with
    | anything free => exact absurd given (free pattern)
    | exact other kind same =>
        cases given.eq other
        exact .inl ⟨kind, same⟩
    | contains other kind part =>
        cases given.eq other
        exact .inr (.inl ⟨kind, part⟩)
    | regex other kind compiles inside spans =>
        cases given.eq other
        exact .inr (.inr ⟨kind, _, _, _, compiles, inside, spans⟩)
  · rintro (⟨kind, same⟩ | ⟨kind, part⟩ | ⟨kind, compiled, start, stop, compiles, inside, spans⟩)
    · exact .exact given kind same
    · exact .contains given kind part
    · exact .regex given kind compiles inside spans

theorem MessageRule.accepts_ofConfig_iff :
    (ofConfig config).accepts text = true ↔ FitsMessage config text := by
  rw [ofConfig]
  cases pattern? : textSetting? config "pattern" with
  | none =>
      have free := textSetting?_eq_none_iff.mp pattern?
      exact iff_of_true rfl (.anything free)
  | some pattern =>
      rw [fitsMessage_iff (textSetting?_eq_some_iff.mp pattern?)]
      cases kind? : textSetting? config "matchType" with
      | none =>
          have free := textSetting?_eq_none_iff.mp kind?
          simp [accepts, free, free "contains", free "regex"]
      | some kind =>
          have said := textSetting?_eq_some_iff.mp kind?
          simp only [said.not_isSilent, said.says_iff, false_or]
          by_cases exactly : kind = "exact"
          · subst exactly
            simp [accepts]
          by_cases within : kind = "contains"
          · subst within
            simp [accepts, Text.contains, Text.occurs_iff]
          by_cases regex : kind = "regex"
          · subst regex
            simp
          simp [accepts, exactly, within, regex]

theorem Trigger.accepts_ofConfig_iff :
    (ofConfig label config).accepts text isCallback = true ↔
      StartsOnText label config text isCallback := by
  have infix_iff (piece : String) :
      Text.contains label piece = true ↔ piece.toList <:+: label.toList := Text.occurs_iff _ _
  rw [ofConfig]
  cases command? : textSetting? config "command" with
  | some command =>
      have given := textSetting?_eq_some_iff.mp command?
      simp only [accepts, normalize, beq_iff_eq]
      constructor
      · exact .command given
      · intro starts
        cases starts with
        | command other same =>
            cases given.eq other
            exact same
        | label free | message free => exact absurd given (free command)
  | none =>
      have free := textSetting?_eq_none_iff.mp command?
      by_cases named : "Command".toList <:+: label.toList
      · simp only [(infix_iff "Command").mpr named, if_true, accepts, normalize, beq_iff_eq]
        constructor
        · exact .label free named
        · intro starts
          cases starts with
          | command given => exact absurd given (free _)
          | label _ _ same => exact same
          | message _ other => exact absurd named other
      have other : Text.contains label "Command" = false :=
        Bool.eq_false_iff.mpr (named ∘ (infix_iff "Command").mp)
      simp only [other, Bool.false_eq_true, if_false]
      constructor
      · intro accepted
        by_cases called : "Message".toList <:+: label.toList
        · simp only [(infix_iff "Message").mpr called, if_true, accepts, Bool.and_eq_true,
            Bool.not_eq_true', MessageRule.accepts_ofConfig_iff] at accepted
          exact .message free named called accepted.1 accepted.2
        · have uncalled : Text.contains label "Message" = false :=
            Bool.eq_false_iff.mpr (called ∘ (infix_iff "Message").mp)
          simp [uncalled, accepts] at accepted
      · intro starts
        cases starts with
        | command given => exact absurd given (free _)
        | label _ unnamed => exact absurd unnamed named
        | message _ _ called typed fits =>
            simp [(infix_iff "Message").mpr called, accepts, typed,
              MessageRule.accepts_ofConfig_iff.mpr fits]

instance : Decidable (StartsOnText label config text isCallback) :=
  decidable_of_iff _ Trigger.accepts_ofConfig_iff

end Triggers

/-! ## Stored nodes -/

/-- The fields of the nodes in a stored text, in the order of their array. -/
def storedNodes (text : Option String) : List Fields :=
  match text.bind Json.read? with
  | some (.object fields) =>
    match Fields.get? fields "nodes" with
    | some (.array items) => items.filterMap Json.object?
    | _ => []
  | _ => []

namespace StoredNode

def data (node : Fields) : Fields :=
  match node.get? "data" with
  | some (.object data) => data
  | _ => []

def label (node : Fields) : String :=
  match (data node).get? "label" with
  | some (.string label) => label
  | _ => ""

def config (node : Fields) : Fields :=
  match (data node).get? "config" with
  | some (.object config) => config
  | _ => []

/-- The node is a trigger that starts a run in the context. -/
def Starts (node : Fields) (context : RunContext) : Prop :=
  node.get? "type" = some (.string "trigger") ∧
    StartsOnText (label node) (config node) context.userText context.isCallback

instance (node : Fields) (context : RunContext) : Decidable (Starts node context) :=
  inferInstanceAs (Decidable (_ ∧ _))

end StoredNode

variable {node : Fields} {spec : NodeSpec} {definition : Definition} {text : Option String}
  {canGenerate : Bool} {orders : Nat → VariableOrder} {workflowId : Option WorkflowId}
  {context : RunContext}

namespace NodeSpec.StoredIn

variable (stored : spec.StoredIn node)
include stored

theorem data_storedIn : spec.data.StoredIn (StoredNode.data node) := by
  rcases stored.data with ⟨inner, found, said⟩ | ⟨missing, same⟩
  · simpa [StoredNode.data, found] using said
  · simp only [StoredNode.data, missing, same]
    exact ⟨rfl, rfl, rfl⟩

theorem label_eq : StoredNode.label node = spec.data.label.value?.getD "" := by
  rw [StoredNode.label, stored.data_storedIn.label]
  cases spec.data.label <;> rfl

theorem config_eq : StoredNode.config node = spec.data.config.value?.getD [] := by
  rw [StoredNode.config, stored.data_storedIn.config]
  cases spec.data.config <;> rfl

theorem isTrigger_iff : node.get? "type" = some (.string "trigger") ↔ spec.type = "trigger" := by
  rcases stored.type with found | ⟨missing, same⟩
  · simp [found]
  · simp [missing, same]

theorem startsOn_iff : (Node.ofSpec spec).StartsOn context ↔ StoredNode.Starts node context := by
  rw [StoredNode.Starts, stored.isTrigger_iff, stored.label_eq, stored.config_eq,
    ← Trigger.accepts_ofConfig_iff]
  by_cases trigger : spec.type = "trigger"
  · simp [Node.StartsOn, Node.ofSpec, NodeKind.ofConfig, trigger]
  · have idle := isTrigger_ofSpec spec
    rw [beq_eq_false_iff_ne.mpr trigger] at idle
    simp only [trigger, false_and, iff_false]
    rintro ⟨other, kind, -⟩
    simp [kind, NodeKind.isTrigger] at idle

end NodeSpec.StoredIn

theorem forall₂_filterMap_object? {α : Type} {means : Fields → α → Prop} {items : List Json}
    {parts : List α}
    (said : Forall₂ (fun item part => ∃ inner, item = .object inner ∧ means inner part)
      items parts) :
    Forall₂ means (items.filterMap Json.object?) parts := by
  induction said with
  | nil => exact .nil
  | cons first _ ih =>
      obtain ⟨inner, rfl, meant⟩ := first
      exact .cons meant ih

theorem exists_read?_of_parse (parsed : Definition.parse text = .ok definition) :
    ∃ raw value, text = some raw ∧ Json.read? raw = some value ∧
      Definition.ofValue value = .ok definition := by
  cases text with
  | none => cases parsed
  | some raw =>
      by_cases filled : raw = ""
      · subst filled
        cases parsed
      · cases read : Json.read? raw with
        | none => cases (Definition.parse_of_unreadable filled read).symm.trans parsed
        | some value => exact ⟨raw, value, rfl, read, Definition.parse_of_read? read ▸ parsed⟩

theorem forall₂_storedNodes (parsed : Definition.parse text = .ok definition) :
    Forall₂ (fun node spec => NodeSpec.StoredIn node spec) (storedNodes text) definition.nodes := by
  obtain ⟨raw, value, rfl, read, said⟩ := exists_read?_of_parse parsed
  rw [Definition.ofValue_eq_ok_iff (Json.regular_of_read? read)] at said
  rcases said with ⟨-, bare, rfl⟩ | ⟨fields, rfl, stored⟩
  · have none_stored : storedNodes (some raw) = [] := by
      rw [storedNodes, Option.bind_some, read]
      cases value with
      | object fields => exact absurd rfl (bare fields)
      | null | bool _ | number _ | string _ | array _ => rfl
    rw [none_stored]
    exact .nil
  · rw [storedNodes, Option.bind_some, read]
    rcases stored.nodes with ⟨items, found, said⟩ | ⟨missing | null, empty⟩
    · simp only [found]
      exact forall₂_filterMap_object? said
    · simp only [missing, empty]
      exact .nil
    · simp only [null, empty]
      exact .nil

/-! ## Runs -/

/-- A run from a trigger of the definition: a walk between two looks at the clock. -/
def runFrom (definition : Definition) (canGenerate : Bool) (orders : Nat → VariableOrder)
    (workflowId : Option WorkflowId) (context : RunContext) (trigger : Node) :
    RunProgram RunResult := do
  let startedAt ← RunProgram.now
  let progress ← walk (.ofDefinition definition) canGenerate orders context trigger
  let finishedAt ← RunProgram.now
  return ((RunResult.ofWalk trigger progress).withWorkflowId workflowId).withTiming
    startedAt finishedAt

theorem run_eq_runFrom {trigger : Node} (parsed : Definition.parse text = .ok definition)
    (selected : (Graph.ofDefinition definition).select context = some trigger) :
    run text canGenerate orders workflowId context =
      runFrom definition canGenerate orders workflowId context trigger := by
  simp only [run, parsed, runGraph, selected, runFrom]

theorem forall_mem_iff_of_forall₂ {α β : Type} {related : α → β → Prop} {holds : α → Prop}
    {means : β → Prop} {items : List α} {parts : List β} (pairs : Forall₂ related items parts)
    (same : ∀ item part, related item part → (means part ↔ holds item)) :
    (∀ part ∈ parts, means part) ↔ ∀ item ∈ items, holds item := by
  induction pairs with
  | nil => simp
  | cons first _ ih => simp only [List.forall_mem_cons, ih, same _ _ first]

theorem none_startsOn_iff {nodes : List Fields} {specs : List NodeSpec}
    (stored : Forall₂ (fun node spec => NodeSpec.StoredIn node spec) nodes specs) :
    (∀ node ∈ specs.map Node.ofSpec, ¬ node.StartsOn context) ↔
      ∀ node ∈ nodes, ¬ StoredNode.Starts node context := by
  rw [List.forall_mem_map]
  exact forall_mem_iff_of_forall₂ stored fun _ _ said => not_congr said.startsOn_iff

theorem status_eq_noMatch_iff {history : List RunEvent} {result : RunResult}
    (parsed : Definition.parse text = .ok definition)
    (runs : Runs (run text canGenerate orders workflowId context) history result) :
    result.status = .noMatch ↔ (Graph.ofDefinition definition).select context = none := by
  cases runs_run_iff.mp runs with
  | unreadable unread => cases unread.symm.trans parsed
  | unmatched read unselected =>
      cases read.symm.trans parsed
      exact iff_of_true rfl unselected
  | @walked _ _ _ trigger _ progress read selected _ =>
      cases read.symm.trans parsed
      rw [selected]
      refine iff_of_false ?_ (Option.some_ne_none trigger)
      change (RunResult.ofWalk trigger progress).status ≠ _
      rw [RunResult.ofWalk]
      cases progress.outcome <;> simp [RunResult.failed, RunResult.success]

end Chatflow
