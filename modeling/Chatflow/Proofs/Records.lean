import Chatflow.Proofs.Instant
import Chatflow.Proofs.Json.Members
import Chatflow.Proofs.RecordId
import Chatflow.Store

/-!
# Texts of records

Every record is read from the text that is written for it.
-/

namespace Chatflow

open Json
open Json.Document (Returns members?_bind_eq_some returns_bool returns_int64 returns_list
  returns_string returns_strings)

/-! ## Updates -/

theorem User.allNumbers_toJson (user : User) : AllNumbers NumberReadsBack user.toJson := by
  simp [toJson]

theorem User.returns (user : User) : Returns ofDocument? toJson user := by
  rw [Returns, toJson, ofDocument?]
  refine members?_bind_eq_some (by decide) (.refl _) fun members these => ?_
  have id := these.required? "id" (returns_int64 user.id) rfl
  have isBot := these.orDefault? "is_bot" false (returns_bool user.isBot) rfl
  have firstName := these.required? "first_name" (returns_string user.firstName) rfl
  simp [id, isBot, firstName]

theorem returns_chat (chat : ChatId) :
    Returns chatOfDocument? (fun chat => .object [("id", .ofInt64 chat)]) chat := by
  rw [Returns, chatOfDocument?]
  exact members?_bind_eq_some (by decide) (.refl _) fun members these =>
    these.required? "id" (returns_int64 chat) rfl

theorem Message.allNumbers_toJson (message : Message) :
    AllNumbers NumberReadsBack message.toJson :=
  .append_fieldIfSome (.append_fieldIfSome (by simp) User.allNumbers_toJson) allNumbers_string

theorem Message.returns (message : Message) : Returns ofDocument? toJson message := by
  rw [Returns, toJson, ofDocument?]
  refine members?_bind_eq_some (by decide)
    (keys_append_fieldIfSome (keys_append_fieldIfSome (.refl _))) fun members these => ?_
  have messageId := these.required? "message_id" (returns_int64 message.messageId) rfl
  have chat := these.required? "chat" (returns_chat message.chat) rfl
  have sender := these.orDefault?_none "from" message.sender (fun user _ => user.returns) rfl
    (by simp [Fields.get?_append, Fields.get?_cons])
  have text := these.orDefault?_none "text" message.text (fun text _ => returns_string text) rfl
    (by simp [Fields.get?_append, Fields.get?_cons])
  simp [messageId, chat, sender, text]

theorem CallbackQuery.allNumbers_toJson (query : CallbackQuery) :
    AllNumbers NumberReadsBack query.toJson :=
  .append_fieldIfSome (.append_fieldIfSome (by simp [query.sender.allNumbers_toJson])
    Message.allNumbers_toJson) allNumbers_string

theorem CallbackQuery.returns (query : CallbackQuery) : Returns ofDocument? toJson query := by
  rw [Returns, toJson, ofDocument?]
  refine members?_bind_eq_some (by decide)
    (keys_append_fieldIfSome (keys_append_fieldIfSome (.refl _))) fun members these => ?_
  have id := these.required? "id" (returns_string query.id) rfl
  have sender := these.required? "from" query.sender.returns rfl
  have message := these.orDefault?_none "message" query.message (fun message _ => message.returns)
    rfl (by simp [Fields.get?_append, Fields.get?_cons])
  have data := these.orDefault?_none "data" query.data (fun text _ => returns_string text) rfl
    (by simp [Fields.get?_append, Fields.get?_cons])
  simp [id, sender, message, data]

theorem Update.allNumbers_toJson (update : Update) : AllNumbers NumberReadsBack update.toJson :=
  .append_fieldIfSome (.append_fieldIfSome (by simp) Message.allNumbers_toJson)
    CallbackQuery.allNumbers_toJson

theorem Update.returns (update : Update) : Returns ofDocument? toJson update := by
  rw [Returns, toJson, ofDocument?]
  refine members?_bind_eq_some (by decide)
    (keys_append_fieldIfSome (keys_append_fieldIfSome (.refl _))) fun members these => ?_
  have updateId := these.required? "update_id" (returns_int64 update.updateId) rfl
  have message := these.orDefault?_none "message" update.message (fun message _ => message.returns)
    rfl (by simp [Fields.get?_append, Fields.get?_cons])
  have callbackQuery := these.orDefault?_none "callback_query" update.callbackQuery
    (fun query _ => query.returns) rfl (by simp [Fields.get?_append, Fields.get?_cons])
  simp [updateId, message, callbackQuery]

/-! ## Messages -/

theorem Button.allNumbers_toJson (button : Button) : AllNumbers NumberReadsBack button.toJson := by
  cases button <;> simp [toJson]

/-- A callback has no link, so it is not taken for one. -/
theorem Button.returns (depth : Nat) (button : Button) :
    Returns (ofDocument? (depth + 1)) toJson button := by
  cases button with
  | link text url => rfl
  | callback text data => rfl

theorem Keyboard.allNumbers_toJson (keyboard : Keyboard) :
    AllNumbers NumberReadsBack keyboard.toJson := by
  simp [toJson, Button.allNumbers_toJson]

/-- A keyboard of any shape nests four levels. -/
theorem Keyboard.returns (depth : Nat) (keyboard : Keyboard) :
    Returns (ofDocument? (depth + 4)) toJson keyboard := by
  rw [Returns, toJson, ofDocument?]
  refine members?_bind_eq_some (by decide) (.refl _) fun members these => ?_
  have row (buttons : List Button) := returns_list fun button (_ : button ∈ buttons) =>
    button.returns depth
  have rows := these.required? "inline_keyboard"
    (returns_list fun buttons (_ : buttons ∈ keyboard.rows) => row buttons) rfl
  simp [rows]

theorem ParseMode.returns (mode : ParseMode) : Returns ofDocument? toJson mode := by
  cases mode <;> rfl

theorem SendOptions.allNumbers_toJson (options : SendOptions) :
    AllNumbers NumberReadsBack options.toJson :=
  .append_fieldIfSome (allNumbers_fieldIfSome fun (mode : ParseMode) => allNumbers_string mode.name)
    Keyboard.allNumbers_toJson

theorem SendOptions.returns (depth : Nat) (options : SendOptions) :
    Returns (ofDocument? (depth + 5)) toJson options := by
  rw [Returns, toJson, fields, ofDocument?]
  refine members?_bind_eq_some (by decide)
    (keys_append_fieldIfSome (keys_fieldIfSome _ _)) fun members these => ?_
  have parseMode := these.optional? "parse_mode" options.parseMode (fun mode _ => mode.returns) rfl
    (by simp [Fields.get?_append])
  have keyboard := these.optional? "reply_markup" options.keyboard
    (fun keyboard _ => keyboard.returns depth) rfl (by simp [Fields.get?_append])
  simp [parseMode, keyboard]

theorem Receipt.allNumbers_toJson (receipt : Receipt) :
    AllNumbers NumberReadsBack receipt.toJson := by
  simp [toJson]

theorem Receipt.returns (receipt : Receipt) : Returns ofDocument? toJson receipt := by
  rw [Returns, toJson, ofDocument?]
  refine members?_bind_eq_some (by decide) (.refl _) fun members these => ?_
  have messageId := these.required? "message_id" (returns_int64 receipt.messageId) rfl
  simp [messageId]

/-! ## Runs -/

theorem RecordId.allNumbers_toJson {kind : RecordKind} (id : RecordId kind) :
    AllNumbers NumberReadsBack id.toJson :=
  .string _

theorem RecordId.returns {kind : RecordKind} (id : RecordId kind) :
    Returns ofDocument? toJson id := by
  rw [Returns, toJson, ofDocument?, Document.ofValue, Document.string?, Option.bind_some,
    ofBare_bare, Except.toOption]

theorem Instant.allNumbers_toJson (instant : Instant) : AllNumbers NumberReadsBack instant.toJson :=
  .string _

theorem Instant.IsPlain.returns {instant : Instant} (plain : instant.IsPlain) :
    Returns ofDocument? toJson instant := by
  rw [Returns, toJson, ofDocument?, Document.ofValue, Document.string?, Option.bind_some,
    ofText?_text plain]

theorem RunStatus.returns (status : RunStatus) : Returns ofDocument? toJson status := by
  cases status <;> rfl

theorem RunResult.allNumbers_toJson (result : RunResult) :
    AllNumbers NumberReadsBack result.toJson :=
  .append_fieldIfSome (.append_fieldIfSome (.append_fieldIfSome (.append_fieldIfSome
    (by simp [RunStatus.toJson]) allNumbers_string) RecordId.allNumbers_toJson)
    Instant.allNumbers_toJson) Instant.allNumbers_toJson

theorem RunResult.returns (result : RunResult) (started : ∀ time ∈ result.startedAt, time.IsPlain)
    (finished : ∀ time ∈ result.finishedAt, time.IsPlain) : Returns ofDocument? toJson result := by
  rw [Returns, toJson, ofDocument?]
  refine members?_bind_eq_some (by decide)
    (keys_append_fieldIfSome (keys_append_fieldIfSome (keys_append_fieldIfSome
      (keys_append_fieldIfSome (.refl _))))) fun members these => ?_
  have status := these.required? "status" result.status.returns rfl
  have steps := these.required? "steps" (returns_strings result.steps) rfl
  have error := these.orDefault?_none "error" result.error (fun text _ => returns_string text) rfl
    (by simp [Fields.get?_append, Fields.get?_cons])
  have workflowId := these.orDefault?_none "workflowId" result.workflowId (fun id _ => id.returns)
    rfl (by simp [Fields.get?_append, Fields.get?_cons])
  have startedAt := these.orDefault?_none "startedAt" result.startedAt
    (fun time held => (started time held).returns) rfl
    (by simp [Fields.get?_append, Fields.get?_cons])
  have finishedAt := these.orDefault?_none "finishedAt" result.finishedAt
    (fun time held => (finished time held).returns) rfl
    (by simp [Fields.get?_append, Fields.get?_cons])
  simp [status, steps, error, workflowId, startedAt, finishedAt]

/-! ## Stored records -/

theorem BotRecord.allNumbers_toJson (bot : BotRecord) : AllNumbers NumberReadsBack bot.toJson := by
  simp [toJson, RecordId.allNumbers_toJson,
    allNumbers_ofOption bot.lastRunAt Instant.allNumbers_toJson]

theorem BotRecord.returns (bot : BotRecord) (ran : ∀ time ∈ bot.lastRunAt, time.IsPlain) :
    Returns ofDocument? toJson bot := by
  rw [Returns, toJson, ofDocument?]
  refine members?_bind_eq_some (by decide) (.refl _) fun members these => ?_
  have id := these.required? "id" bot.id.returns rfl
  have name := these.required? "name" (returns_string bot.name) rfl
  have token := these.required? "token" (returns_string bot.token) rfl
  have lastRunAt := these.optional?_null "last_run_at" bot.lastRunAt
    (fun time held => (ran time held).returns) rfl rfl
  simp [id, name, token, lastRunAt]

theorem StoredWorkflow.allNumbers_toJson (workflow : StoredWorkflow) :
    AllNumbers NumberReadsBack workflow.toJson := by
  simp [toJson, RecordId.allNumbers_toJson,
    allNumbers_ofOption workflow.definition allNumbers_string]

theorem StoredWorkflow.returns (workflow : StoredWorkflow) :
    Returns ofDocument? toJson workflow := by
  rw [Returns, toJson, ofDocument?]
  refine members?_bind_eq_some (by decide) (.refl _) fun members these => ?_
  have id := these.required? "id" workflow.id.returns rfl
  have botId := these.required? "bot_id" workflow.botId.returns rfl
  have name := these.required? "name" (returns_string workflow.name) rfl
  have enabled := these.required? "enabled" (returns_bool workflow.enabled) rfl
  have definition := these.optional?_null "definition_json" workflow.definition
    (fun text _ => returns_string text) rfl rfl
  simp [id, botId, name, enabled, definition]

theorem ExecutionLog.allNumbers_toJson (log : ExecutionLog) :
    AllNumbers NumberReadsBack log.toJson := by
  simp [toJson, RecordId.allNumbers_toJson, RunStatus.toJson, Instant.allNumbers_toJson,
    allNumbers_ofOption log.error allNumbers_string]

theorem ExecutionLog.returns (log : ExecutionLog) (created : log.createdAt.IsPlain) :
    Returns ofDocument? toJson log := by
  rw [Returns, toJson, ofDocument?]
  refine members?_bind_eq_some (by decide) (.refl _) fun members these => ?_
  have id := these.required? "id" log.id.returns rfl
  have botId := these.required? "bot_id" log.botId.returns rfl
  have workflowId := these.required? "workflow_id" log.workflowId.returns rfl
  have status := these.required? "status" log.status.returns rfl
  have steps := these.required? "steps" (returns_strings log.steps) rfl
  have error := these.optional?_null "error" log.error (fun text _ => returns_string text) rfl rfl
  have createdAt := these.required? "created_at" created.returns rfl
  simp [id, botId, workflowId, status, steps, error, createdAt]

/-! ## Texts -/

/-- Each record is read from the text that is written for it.  Times have to be of years with four
digits and no leap seconds. -/
theorem records_read_from_text :
    (∀ bot : BotRecord, (∀ time ∈ bot.lastRunAt, time.IsPlain) →
      (readDocument? bot.toJson.write).bind BotRecord.ofDocument? = some bot) ∧
    (∀ workflow : StoredWorkflow,
      (readDocument? workflow.toJson.write).bind StoredWorkflow.ofDocument? = some workflow) ∧
    (∀ log : ExecutionLog, log.createdAt.IsPlain →
      (readDocument? log.toJson.write).bind ExecutionLog.ofDocument? = some log) ∧
    (∀ result : RunResult, (∀ time ∈ result.startedAt, time.IsPlain) →
      (∀ time ∈ result.finishedAt, time.IsPlain) →
      (readDocument? result.toJson.write).bind RunResult.ofDocument? = some result) ∧
    (∀ user : User, (readDocument? user.toJson.write).bind User.ofDocument? = some user) ∧
    (∀ message : Message,
      (readDocument? message.toJson.write).bind Message.ofDocument? = some message) ∧
    (∀ query : CallbackQuery,
      (readDocument? query.toJson.write).bind CallbackQuery.ofDocument? = some query) ∧
    (∀ update : Update,
      (readDocument? update.toJson.write).bind Update.ofDocument? = some update) ∧
    (∀ options : SendOptions,
      (readDocument? options.toJson.write).bind (SendOptions.ofDocument? Document.maxDepth) =
        some options) ∧
    ∀ receipt : Receipt,
      (readDocument? receipt.toJson.write).bind Receipt.ofDocument? = some receipt :=
  ⟨fun bot ran => (bot.returns ran).readDocument?_write bot.allNumbers_toJson,
    fun workflow => workflow.returns.readDocument?_write workflow.allNumbers_toJson,
    fun log created => (log.returns created).readDocument?_write log.allNumbers_toJson,
    fun result started finished =>
      (result.returns started finished).readDocument?_write result.allNumbers_toJson,
    fun user => user.returns.readDocument?_write user.allNumbers_toJson,
    fun message => message.returns.readDocument?_write message.allNumbers_toJson,
    fun query => query.returns.readDocument?_write query.allNumbers_toJson,
    fun update => update.returns.readDocument?_write update.allNumbers_toJson,
    fun options => (options.returns 122).readDocument?_write options.allNumbers_toJson,
    fun receipt => receipt.returns.readDocument?_write receipt.allNumbers_toJson⟩

/-- The last nanosecond of a leap day. -/
theorem records_read_from_text_leapDay :
    let time := Instant.ofUnixNanoseconds 1709251199999999999
    let bot : BotRecord := ⟨.ofNat 1, "shop", "a\"b", some time⟩
    let result : RunResult := { RunResult.noMatch with startedAt := some time }
    (Calendar.dateOf time.day, time.second, time.nanosecond) = (⟨2024, 2, 29⟩, 86399, 999999999) ∧
      (readDocument? bot.toJson.write).bind BotRecord.ofDocument? = some bot ∧
      (readDocument? result.toJson.write).bind RunResult.ofDocument? = some result := by
  intro time bot result
  have plain : time.IsPlain := ⟨by decide, by decide, by decide⟩
  have held : ∀ other ∈ some time, other.IsPlain := by
    rintro _ ⟨⟩
    exact plain
  obtain ⟨bots, -, -, results, -⟩ := records_read_from_text
  exact ⟨by decide, bots bot held, results result held nofun⟩

end Chatflow
