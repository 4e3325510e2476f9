import Chatflow.Proofs.Program.History
import Chatflow.Proofs.Records
import Chatflow.Proofs.Setting
import Chatflow.Proofs.Walk.Reference
import Chatflow.Runner
import Mathlib.Data.List.Forall2

/-!
# Buttons on the wire

What a node posts that sends a message with buttons.  A config gives the buttons, the body of the
post has them in their order with the texts of their author, and they are read back from its text.
-/

namespace Chatflow

open Json (Document Fields)
open List (Forall₂)

/-! ## Buttons that a config gives -/

/-- The value has the two texts of the button. -/
structure ButtonSpec.IsGivenBy (button : ButtonSpec) (value : Json) : Prop where
  text : value.get? "text" = some (.string button.text)
  data : value.get? "data" = some (.string button.data)

theorem ButtonSpec.IsGivenBy.ofValue_eq {button : ButtonSpec} {value : Json}
    (given : button.IsGivenBy value) : ofValue value = button := by
  simp [ofValue, given.text, given.data, Json.string?]

theorem ofConfig_eq_sendMessage {label message : String} {config : Fields} {values : List Json}
    {buttons : List ButtonSpec}
    (sends : "Send".toList <:+: label.toList ∨ "Reply".toList <:+: label.toList)
    (said : config.Says "message" message) (held : config.get? "buttons" = some (.array values))
    (given : Forall₂ ButtonSpec.IsGivenBy buttons values) :
    Action.ofConfig label config = .sendMessage message buttons := by
  have read : values.map ButtonSpec.ofValue = buttons := by
    clear held
    induction given with
    | nil => rfl
    | cons first _ ih => rw [List.map_cons, first.ofValue_eq, ih]
  have labelled : (Text.contains label "Send" || Text.contains label "Reply") = true := by
    rw [Bool.or_eq_true, Text.contains, Text.contains, Text.occurs_iff, Text.occurs_iff]
    exact sends
  have text := textSetting?_eq_some_iff.mpr said
  rw [Action.ofConfig, if_pos labelled, text, held]
  simp [Json.array?, read]

/-! ## The body of a post -/

theorem Button.looksLikeLink_iff {payload : String} :
    looksLikeLink payload = true ↔
      "http".toList <+: payload.toList ∨ "t.me".toList <+: payload.toList := by
  simp [looksLikeLink, Text.startsWith]

namespace ButtonSpec

/-- The key for the data of a button. -/
def wireKey (button : ButtonSpec) : String :=
  if "http".toList <+: button.data.toList ∨ "t.me".toList <+: button.data.toList then "url"
  else "callback_data"

def wire (button : ButtonSpec) : Json :=
  .object [("text", .string button.text), (button.wireKey, .string button.data)]

theorem toJson_button (button : ButtonSpec) : button.button.toJson = button.wire := by
  rw [ButtonSpec.button, Button.ofPayload, wire, wireKey]
  by_cases link : Button.looksLikeLink button.data = true
  · rw [if_pos link, if_pos (Button.looksLikeLink_iff.mp link), Button.toJson]
  · rw [if_neg link, if_neg (mt Button.looksLikeLink_iff.mpr link), Button.toJson]

end ButtonSpec

/-- A keyboard with one row for each button. -/
def wireKeyboard (buttons : List ButtonSpec) : Json :=
  .object [("inline_keyboard", .array (buttons.map fun button => .array [button.wire]))]

/-- The body of the post that sends a text with buttons. -/
def wireBody (chat : ChatId) (text : String) (buttons : List ButtonSpec) : Json :=
  .object ([("chat_id", .ofInt64 chat), ("text", .string text),
    ("parse_mode", .string "Markdown")] ++
    if buttons = [] then [] else [("reply_markup", wireKeyboard buttons)])

namespace Action

variable (buttons : List ButtonSpec)

def keyboard : Keyboard := .singleColumn (buttons.map ButtonSpec.button)

theorem keyboard_rows : (keyboard buttons).rows = buttons.map fun button => [button.button] := by
  simp [keyboard, Keyboard.singleColumn]

theorem toJson_keyboard : (keyboard buttons).toJson = wireKeyboard buttons := by
  simp [Keyboard.toJson, keyboard_rows, wireKeyboard, ButtonSpec.toJson_button]

theorem sendOptions_eq :
    sendOptions buttons =
      ⟨some .markdown, if buttons = [] then none else some (keyboard buttons)⟩ := by
  rw [sendOptions_eq_optionsWith, optionsWith, ← keyboard_rows]

theorem messageParameters_sendOptions (chat : ChatId) (text : String) :
    BotApi.messageParameters ⟨chat, text, sendOptions buttons⟩ = wireBody chat text buttons := by
  rw [BotApi.messageParameters, SendOptions.fields, sendOptions_eq, wireBody]
  by_cases none : buttons = []
  · simp [none, Json.fieldIfSome, ParseMode.toJson, ParseMode.name]
  · simp [none, Json.fieldIfSome, ParseMode.toJson, ParseMode.name, toJson_keyboard]

end Action

/-! ## Reading back -/

/-- The options of a message are read from the whole body of its post. -/
theorem BotApi.options_returns (depth : Nat) (message : OutgoingMessage) :
    SendOptions.ofDocument? (depth + 5) (.ofValue (messageParameters message)) =
      some message.options := by
  rw [← message.options.returns depth, SendOptions.ofDocument?, SendOptions.ofDocument?,
    messageParameters, Document.members?_append_of_unknown (by simp), SendOptions.toJson]

theorem BotApi.allNumbers_messageParameters (message : OutgoingMessage) :
    Json.AllNumbers Json.NumberReadsBack (messageParameters message) := by
  have options := message.options.allNumbers_toJson
  rw [SendOptions.toJson, Json.allNumbers_object_iff] at options
  simpa [messageParameters, or_imp, forall_and] using options

def Button.authored : Button → ButtonSpec
  | link text url => ⟨text, url⟩
  | callback text data => ⟨text, data⟩

/-- The buttons of a message as their author gave them. -/
def SendOptions.authored (options : SendOptions) : List ButtonSpec :=
  (options.keyboard.elim [] Keyboard.rows).flatten.map Button.authored

@[simp] theorem ButtonSpec.authored_button (spec : ButtonSpec) : spec.button.authored = spec := by
  rw [button, Button.ofPayload]
  split <;> rfl

theorem Action.authored_sendOptions (buttons : List ButtonSpec) :
    (sendOptions buttons).authored = buttons := by
  rw [sendOptions_eq, SendOptions.authored]
  by_cases none : buttons = []
  · simp [none]
  · simp [none, keyboard_rows, ← List.flatMap_def, ← List.map_eq_flatMap, Function.comp_def]

/-! ## Posting -/

open Program (Runs runs_bind_iff)

theorem calls_of_runs_sendMessage {client : BotApi.Client} {message : OutgoingMessage}
    {history : List (Program.Event Runner.Call Runner.Call.Answer)}
    {answer : Except TransportError Receipt}
    (runs : Runs (Runner.RunnerProgram.ofExchange (client.sendMessage message)) history answer) :
    history.map (·.call) =
      [.exchange ⟨client.endpoint "sendMessage", BotApi.messageParameters message⟩] := by
  rw [BotApi.Client.sendMessage, BotApi.Client.call, Http.post] at runs
  obtain ⟨reply, rest, rfl, ended⟩ := Program.runs_call_iff.mp runs
  -- What comes back is only looked at.
  cases reply with
  | error failure =>
      obtain ⟨rfl, -⟩ := Program.runs_done_iff.mp ended
      rfl
  | ok reply =>
      obtain ⟨rfl, -⟩ := Program.runs_done_iff.mp ended
      rfl

theorem calls_of_runs_deliver {client : BotApi.Client} {context : RunContext} {node : Node}
    {text : String} {options : SendOptions}
    {history : List (Program.Event Runner.Call Runner.Call.Answer)} {progress : Progress Unit}
    (runs : Runs ((deliver context node text options).answeredBy (Runner.answerSending client))
      history progress) :
    history.map (·.call) =
      [.exchange ⟨client.endpoint "sendMessage",
        BotApi.messageParameters ⟨context.chat, text, options⟩⟩] := by
  obtain ⟨sending, answer, ending, rfl, sent, ended⟩ := runs_bind_iff.mp runs
  have none : ending = [] := by
    cases answer with
    | error failure => exact (Program.runs_done_iff.mp ended).1
    | ok receipt => exact (Program.runs_done_iff.mp ended).1
  rw [none, List.append_nil]
  exact calls_of_runs_sendMessage sent

/-- A node posts its buttons in their order, each with the texts that its config gives, and both
the keyboard and the whole body read back to them. -/
theorem posted_buttons_are_authored (client : BotApi.Client) (canGenerate : Bool)
    (order : VariableOrder) (context : RunContext) (node : Node) {message : String}
    {buttons : List ButtonSpec} (kind : node.kind = .action (.sendMessage message buttons)) :
    (∀ surroundings,
      (((execute canGenerate order context node).answeredBy (Runner.answerSending client)).runIn
          surroundings).2.map (·.call) =
        [.exchange ⟨client.endpoint "sendMessage", wireBody context.chat message buttons⟩]) ∧
    (Json.readDocument? (wireKeyboard buttons).write).bind
        (Keyboard.ofDocument? Document.maxDepth) =
      some ⟨buttons.map fun button => [button.button]⟩ ∧
    ((Json.readDocument? (wireBody context.chat message buttons).write).bind
        (SendOptions.ofDocument? Document.maxDepth)).map SendOptions.authored = some buttons ∧
    ∀ label config values,
      "Send".toList <:+: label.toList ∨ "Reply".toList <:+: label.toList →
      config.Says "message" message → config.get? "buttons" = some (.array values) →
      Forall₂ ButtonSpec.IsGivenBy buttons values →
      NodeKind.ofConfig "action" label config = node.kind := by
  refine ⟨?posted, ?keyboard, ?body, ?config⟩
  case posted =>
    intro surroundings
    have runs := Program.runs_runIn surroundings
      ((execute canGenerate order context node).answeredBy (Runner.answerSending client))
    rw [execute, kind] at runs ⊢
    rw [calls_of_runs_deliver runs, Action.messageParameters_sendOptions]
  case keyboard =>
    let keyboard := Action.keyboard buttons
    rw [← Action.toJson_keyboard, ← Action.keyboard_rows]
    exact (keyboard.returns 123).readDocument?_write keyboard.allNumbers_toJson
  case body =>
    let sent : OutgoingMessage := ⟨context.chat, message, Action.sendOptions buttons⟩
    have read : SendOptions.ofDocument? Document.maxDepth
        (.ofValue (BotApi.messageParameters sent)) = some sent.options :=
      BotApi.options_returns 122 sent
    rw [← Action.messageParameters_sendOptions,
      Json.readDocument?_write (BotApi.allNumbers_messageParameters sent), Option.bind_some, read,
      Option.map_some, Action.authored_sendOptions]
  case config =>
    intro label config values sends said held given
    rw [kind, NodeKind.ofConfig, ofConfig_eq_sendMessage sends said held given]
    rfl

/-- A link, a channel and a text that only contains a link. -/
theorem posted_buttons_are_authored_menu :
    let client : BotApi.Client := ⟨"https://api.telegram.org", "1:a"⟩
    let context : RunContext := { bot := { token := "1:a" }, chat := -7, userText := "/start" }
    let value (text data : String) : Json :=
      .object [("data", .string data), ("text", .string text)]
    let config : Fields := [("buttons", .array [value "Site" "https://a.org",
      value "Chat" "t.me/a", value "Say \"1\"" "see http"]), ("message", .string "pick")]
    let buttons : List ButtonSpec :=
      [⟨"Site", "https://a.org"⟩, ⟨"Chat", "t.me/a"⟩, ⟨"Say \"1\"", "see http"⟩]
    let node : Node := ⟨"n", "Send Menu", .action (.sendMessage "pick" buttons)⟩
    let body : Json := .object [("chat_id", .ofInt64 (-7)), ("text", .string "pick"),
      ("parse_mode", .string "Markdown"), ("reply_markup", .object [("inline_keyboard", .array [
        .array [.object [("text", .string "Site"), ("url", .string "https://a.org")]],
        .array [.object [("text", .string "Chat"), ("url", .string "t.me/a")]],
        .array [.object [("text", .string "Say \"1\""),
          ("callback_data", .string "see http")]]])])]
    NodeKind.ofConfig "action" "Send Menu" config = node.kind ∧
      ∀ surroundings, (((execute false .textFirst context node).answeredBy
          (Runner.answerSending client)).runIn surroundings).2.map (·.call) =
        [.exchange ⟨"https://api.telegram.org/bot1:a/sendMessage", body⟩] := by
  intro client context value config buttons node body
  have given : Forall₂ ButtonSpec.IsGivenBy buttons [value "Site" "https://a.org",
      value "Chat" "t.me/a", value "Say \"1\"" "see http"] :=
    .cons ⟨rfl, rfl⟩ (.cons ⟨rfl, rfl⟩ (.cons ⟨rfl, rfl⟩ .nil))
  obtain ⟨posted, -, -, read⟩ :=
    posted_buttons_are_authored client false .textFirst context node rfl
  refine ⟨read "Send Menu" config _ (.inl (by decide)) ⟨rfl, by decide⟩ rfl given, ?_⟩
  intro surroundings
  rw [posted surroundings]
  rfl

end Chatflow
