import Chatflow.BotApi
import Chatflow.Proofs.Json.Alike
import Chatflow.Proofs.Json.Members

/-!
# Replies of the bot API

What comes of sending a message is told by four members of the envelope in the reply.  A reply is a
refusal only if it says so and all of its members can be read; otherwise it makes no sense.
-/

namespace Chatflow.BotApi

open Json (Document Fields)
open Json.Document (Means ReadsAlike means_ofValue readsAlike_bool readsAlike_int64
  readsAlike_record readsAlike_string)

variable {document : Document} {json : Json} {fields : Fields}

/-! ## Receipts -/

/-- The value is taken for the receipt. -/
inductive IsReceipt (receipt : Receipt) : Json → Prop
  | object {fields : Fields}
      (id : fields.get? "message_id" = some (.ofInt64 receipt.messageId)) :
      IsReceipt receipt (.object fields)
  | array : IsReceipt receipt (.array [.ofInt64 receipt.messageId])

theorem isReceipt_iff {receipt : Receipt} :
    IsReceipt receipt json ↔ ∃ has, Json.recordMembers? ["message_id"] json = some has ∧
      has.2.get? "message_id" = some (.ofInt64 receipt.messageId) := by
  constructor
  · rintro (id | -)
    · exact ⟨_, rfl, id⟩
    · exact ⟨_, rfl, rfl⟩
  · rintro ⟨has, found, id⟩
    cases json with
    | object fields =>
        cases found
        exact .object id
    | array values =>
        rcases values with _ | ⟨value, _ | ⟨next, values⟩⟩
        · cases found
          cases id
        · cases found
          cases id
          exact .array
        · simp [Json.recordMembers?] at found
    | null | bool _ | number _ | string _ => cases found

theorem receipt?_eq_some_iff {receipt : Receipt} (means : document.Means json) :
    Receipt.ofDocument? document = some receipt ↔ IsReceipt receipt json := by
  rw [isReceipt_iff]
  refine means.members?_bind_eq_some_iff fun {members has} mean => ?_
  have id : members.required? "message_id" Document.int64? = some receipt.messageId ↔ _ :=
    mean.required?_eq_some_iff (List.mem_singleton_self _) Means.int64?_eq_some_iff
  obtain ⟨messageId⟩ := receipt
  simpa [Option.bind_eq_some_iff] using id

/-! ## Envelopes -/

/-- The fields hold the members of an envelope, perhaps among others. -/
structure Envelope.HeldBy (envelope : Envelope Receipt) (fields : Fields) : Prop where
  ok : fields.get? "ok" = some (.bool envelope.ok)
  result : Option.Rel IsReceipt envelope.result (fields.held? "result")
  description : fields.held? "description" = envelope.description.map .string
  errorCode : fields.held? "error_code" = envelope.errorCode.map .ofInt64

theorem envelope?_eq_some_iff {envelope : Envelope Receipt}
    (means : document.Means (.object fields)) :
    Envelope.ofDocument? Receipt.ofDocument? document = some envelope ↔ envelope.HeldBy fields := by
  obtain ⟨ok, result, description, errorCode⟩ := envelope
  obtain ⟨members, found, mean⟩ :=
    means.exists_members?_eq ["ok", "result", "description", "error_code"]
  have ok_iff : members.required? "ok" Document.bool? = some ok ↔ _ :=
    mean.required?_eq_some_iff (by decide) Means.bool?_eq_some_iff
  have result_iff : members.optional? "result" Receipt.ofDocument? = some result ↔ _ :=
    mean.optional?_eq_some_iff (by decide) rfl receipt?_eq_some_iff
  have description_iff : members.optional? "description" Document.string? = some description ↔ _ :=
    mean.optional?_eq_some_iff_map (by decide) rfl Means.string?_eq_some_iff
  have errorCode_iff : members.optional? "error_code" Document.int64? = some errorCode ↔ _ :=
    mean.optional?_eq_some_iff_map (by decide) rfl Means.int64?_eq_some_iff
  have read : Envelope.ofDocument? Receipt.ofDocument? document =
      some { ok, result, description, errorCode } ↔
        members.required? "ok" Document.bool? = some ok ∧
        members.optional? "result" Receipt.ofDocument? = some result ∧
        members.optional? "description" Document.string? = some description ∧
        members.optional? "error_code" Document.int64? = some errorCode := by
    rw [Envelope.ofDocument?, found]
    cases ok <;> simp [Option.bind_eq_some_iff]
  rw [read, ok_iff, result_iff, description_iff, errorCode_iff]
  constructor
  · rintro ⟨⟨_, ok, rfl⟩, result, description, errorCode⟩
    exact ⟨ok, result, description, errorCode⟩
  · rintro ⟨ok, result, description, errorCode⟩
    exact ⟨⟨_, ok, rfl⟩, result, description, errorCode⟩

/-! ## Envelopes with the same members -/

def envelopePart : String → Json → Json → Prop
  | "result" => Json.Alike ["message_id"] fun _ => Eq
  | _ => Eq

/-- Two envelopes with the same members, as far as they are read.  They may have any other fields,
and so may their results. -/
def EnvelopesAlike : Json → Json → Prop :=
  Json.Alike ["ok", "result", "description", "error_code"] envelopePart

theorem envelopePart_refl (name : String) (json : Json) : envelopePart name json json := by
  unfold envelopePart
  split
  · exact .same json
  · rfl

theorem readsAlike_receipt :
    ReadsAlike Receipt.ofDocument? (Json.Alike ["message_id"] fun _ => Eq) := by
  refine readsAlike_record (fun _ _ => rfl) fun alike => ?_
  rw [alike.required? "message_id" (by decide) readsAlike_int64]

theorem readsAlike_envelope :
    ReadsAlike (Envelope.ofDocument? Receipt.ofDocument?) EnvelopesAlike := by
  refine readsAlike_record envelopePart_refl fun alike => ?_
  rw [alike.required? "ok" (by decide) readsAlike_bool,
    alike.optional? "result" (by decide) (readsAlike_receipt.nullable? Json.Alike.null_iff),
    alike.optional? "description" (by decide) (readsAlike_string.nullable? (· ▸ .rfl)),
    alike.optional? "error_code" (by decide) (readsAlike_int64.nullable? (· ▸ .rfl))]

/-! ## Outcomes -/

variable {reply : Http.Reply} {method : String}

theorem interpret_cases (read : Json.readDocument? reply.body = some document)
    (means : document.Means (.object fields)) :
    (∃ envelope : Envelope Receipt, (∀ other : Envelope Receipt,
        other.HeldBy fields ↔ other = envelope) ∧
      interpret method Receipt.ofDocument? reply = envelope.unwrap method) ∨
    ((∀ envelope : Envelope Receipt, ¬ envelope.HeldBy fields) ∧
      ∃ reason, interpret method Receipt.ofDocument? reply =
        .error (.invalidResponse method reason)) := by
  rw [interpret, read, Option.bind_some]
  cases found : Envelope.ofDocument? Receipt.ofDocument? document with
  | some envelope =>
      refine .inl ⟨envelope, fun other => ?_, rfl⟩
      rw [← envelope?_eq_some_iff means, found, Option.some.injEq, eq_comm]
  | none =>
      refine .inr ⟨fun envelope held => ?_, _, rfl⟩
      rw [← envelope?_eq_some_iff means, found] at held
      cases held

theorem interpret_eq_ok_iff (read : Json.readDocument? reply.body = some document)
    (means : document.Means (.object fields)) {receipt : Receipt} :
    interpret method Receipt.ofDocument? reply = .ok receipt ↔ ∃ description errorCode,
      Envelope.HeldBy ⟨true, some receipt, description, errorCode⟩ fields := by
  rcases interpret_cases read means with ⟨⟨ok, result, told, code⟩, held, same⟩ | ⟨none, _, same⟩
  · rw [same]
    cases ok <;> cases result <;> simp [held, Envelope.unwrap, eq_comm]
  · simp [same, none]

theorem interpret_eq_rejected_iff (read : Json.readDocument? reply.body = some document)
    (means : document.Means (.object fields)) {errorCode : Option Int64} {description : String} :
    interpret method Receipt.ofDocument? reply =
        .error (.rejected method errorCode description) ↔
      ∃ result told, Envelope.HeldBy ⟨false, result, told, errorCode⟩ fields ∧
        description = told.getD "no description" := by
  rcases interpret_cases read means with ⟨⟨ok, result, told, code⟩, held, same⟩ | ⟨none, _, same⟩
  · rw [same]
    cases ok <;> cases result <;> simp [held, Envelope.unwrap, eq_comm]
  · simp [same, none]

theorem exists_interpret_eq_invalidResponse_iff
    (read : Json.readDocument? reply.body = some document)
    (means : document.Means (.object fields)) :
    (∃ reason, interpret method Receipt.ofDocument? reply =
        .error (.invalidResponse method reason)) ↔
      (¬ ∃ receipt description errorCode,
        Envelope.HeldBy ⟨true, some receipt, description, errorCode⟩ fields) ∧
      ¬ ∃ result description errorCode,
        Envelope.HeldBy ⟨false, result, description, errorCode⟩ fields := by
  rcases interpret_cases read means with ⟨⟨ok, result, told, code⟩, held, same⟩ | ⟨none, _, same⟩
  · rw [same]
    cases ok <;> cases result <;> simp [held, Envelope.unwrap, eq_comm]
  · simp [same, none]

/-! ## Messages -/

abbrev Surroundings := Program.Surroundings Http.Post fun _ => Except Http.Failure Http.Reply

/-- The reply to the first post has a JSON object in its body, in which no key is repeated. -/
def RepliesWith (surroundings : Surroundings) (post : Http.Post) (status : Nat) (fields : Fields) :
    Prop :=
  ∃ reply document, surroundings [] post = .ok reply ∧ reply.status = status ∧
    Json.readDocument? reply.body = some document ∧ document.Distinct ∧
    document.value? Document.maxDepth = some (.object fields)

variable {surroundings : Surroundings} {client : Client} {message : OutgoingMessage} {status : Nat}

theorem runIn_sendMessage
    (answer : surroundings [] ⟨client.endpoint "sendMessage", messageParameters message⟩ =
      .ok reply) :
    ((client.sendMessage message).runIn surroundings).1 =
      interpret "sendMessage" Receipt.ofDocument? reply := by
  simp only [Client.sendMessage, Client.call, Http.post, Program.ask, Program.call_bind,
    Program.runIn, Program.runAfter, answer]
  rfl

/-- Whether a message is delivered, refused or answered without sense is decided by the members of
the envelope alone: the status of the reply and further fields make no difference to it. -/
theorem sendMessage_is_told_by_envelope
    (replies : RepliesWith surroundings ⟨client.endpoint "sendMessage", messageParameters message⟩
      status fields) :
    (∀ receipt, ((client.sendMessage message).runIn surroundings).1 = .ok receipt ↔
      ∃ description errorCode,
        Envelope.HeldBy ⟨true, some receipt, description, errorCode⟩ fields) ∧
    (∀ errorCode description, ((client.sendMessage message).runIn surroundings).1 =
        .error (.rejected "sendMessage" errorCode description) ↔
      ∃ result told, Envelope.HeldBy ⟨false, result, told, errorCode⟩ fields ∧
        description = told.getD "no description") ∧
    ((∃ reason, ((client.sendMessage message).runIn surroundings).1 =
        .error (.invalidResponse "sendMessage" reason)) ↔
      (¬ ∃ receipt description errorCode,
        Envelope.HeldBy ⟨true, some receipt, description, errorCode⟩ fields) ∧
      ¬ ∃ result description errorCode,
        Envelope.HeldBy ⟨false, result, description, errorCode⟩ fields) ∧
    ∀ there others,
      RepliesWith there ⟨client.endpoint "sendMessage", messageParameters message⟩ status others →
      EnvelopesAlike (.object fields) (.object others) →
        ((client.sendMessage message).runIn there).1 =
          ((client.sendMessage message).runIn surroundings).1 := by
  obtain ⟨reply, document, answer, coded, read, distinct, value⟩ := replies
  have means : document.Means (.object fields) := ⟨distinct, _, value⟩
  rw [runIn_sendMessage answer]
  refine ⟨fun receipt => interpret_eq_ok_iff read means,
    fun errorCode description => interpret_eq_rejected_iff read means,
    exists_interpret_eq_invalidResponse_iff read means, ?_⟩
  rintro there others ⟨otherReply, another, otherAnswer, otherCoded, otherRead, otherDistinct,
    otherValue⟩ alike
  have same := readsAlike_envelope ⟨_, _, means, ⟨otherDistinct, _, otherValue⟩, alike⟩
  rw [runIn_sendMessage otherAnswer, interpret, interpret, read, otherRead,
    Option.bind_some, Option.bind_some, same, coded, otherCoded]

theorem repliesWith_write {post : Http.Post}
    (regular : Json.Regular Document.maxDepth (.object fields))
    (numbers : Json.AllNumbers Json.NumberReadsBack (.object fields)) :
    RepliesWith (fun _ _ => .ok ⟨status, (Json.object fields).write⟩) post status fields :=
  ⟨_, _, rfl, rfl, Json.readDocument?_write numbers, (means_ofValue regular).1,
    Json.Document.value?_ofValue regular⟩

/-- A refusal, to which the platform adds when to try again. -/
theorem sendMessage_is_told_by_envelope_refused :
    let further : Fields := [("description", .string "Too Many Requests"),
      ("error_code", .ofInt64 429), ("ok", .bool false), ("retry_after", .ofInt64 5)]
    ((Client.sendMessage ⟨"http://localhost", "1:a"⟩ ⟨5, "hi", {}⟩).runIn
      fun _ _ => .ok ⟨429, (Json.object further).write⟩).1 =
        .error (.rejected "sendMessage" (some 429) "Too Many Requests") := by
  intro further
  let refusal : Fields := [("description", .string "Too Many Requests"),
    ("error_code", .ofInt64 429), ("ok", .bool false)]
  let client : Client := ⟨"http://localhost", "1:a"⟩
  have replies (fields : Fields) (numbers : Json.AllNumbers Json.NumberReadsBack (.object fields))
      (value : (Document.ofValue (.object fields)).value? Document.maxDepth =
        some (.object fields)) :
      RepliesWith (fun _ _ => .ok ⟨429, (Json.object fields).write⟩)
        ⟨client.endpoint "sendMessage", messageParameters ⟨5, "hi", {}⟩⟩ 429 fields :=
    repliesWith_write (Json.Document.regular_of_value? value) numbers
  have refused := replies refusal (by simp [refusal]) (by rfl)
  have longer := replies further (by simp [further]) (by rfl)
  have sorted : refusal.Pairwise fun a b => a.1 < b.1 := by decide
  have alike : EnvelopesAlike (.object refusal) (.object further) :=
    Json.alike_added envelopePart_refl sorted [("retry_after", .ofInt64 5)] (by decide)
  obtain ⟨-, rejected, -, told⟩ := sendMessage_is_told_by_envelope refused
  rw [told _ _ longer alike, rejected]
  exact ⟨none, some "Too Many Requests", ⟨rfl, .none, rfl, rfl⟩, rfl⟩

end Chatflow.BotApi
