import Chatflow.Proofs.Json.Alike
import Chatflow.Update

/-!
# Updates and their events

An update is told by the members that are read; whatever else the platform says about it, its
messages, chats and users makes no difference.  A tapped button hides a message, even if nothing
can be made of the tap.
-/

namespace Chatflow

open Json (Document Regular)
open Json.Document (MeanAlike ReadsAlike means_ofValue ofValue readsAlike_bool readsAlike_int64
  readsAlike_record readsAlike_string)

/-! ## Values with the same members -/

def User.Alike : Json → Json → Prop := Json.Alike ["id", "is_bot", "first_name"] fun _ => Eq

def ChatsAlike : Json → Json → Prop := Json.Alike ["id"] fun _ => Eq

def Message.part : String → Json → Json → Prop
  | "chat" => ChatsAlike
  | "from" => User.Alike
  | _ => Eq

def Message.Alike : Json → Json → Prop :=
  Json.Alike ["message_id", "chat", "from", "text"] Message.part

def CallbackQuery.part : String → Json → Json → Prop
  | "from" => User.Alike
  | "message" => Message.Alike
  | _ => Eq

def CallbackQuery.Alike : Json → Json → Prop :=
  Json.Alike ["id", "from", "message", "data"] CallbackQuery.part

def Update.part : String → Json → Json → Prop
  | "message" => Message.Alike
  | "callback_query" => CallbackQuery.Alike
  | _ => Eq

/-- Two updates with the same members, as far as they are read.  They may have any other fields,
and so may the messages, chats, users and callback queries in them. -/
def Update.Alike : Json → Json → Prop :=
  Json.Alike ["update_id", "message", "callback_query"] Update.part

theorem Message.part_refl (name : String) (json : Json) : Message.part name json json := by
  unfold Message.part
  split
  · exact .same json
  · exact .same json
  · rfl

theorem CallbackQuery.part_refl (name : String) (json : Json) :
    CallbackQuery.part name json json := by
  unfold CallbackQuery.part
  split
  · exact .same json
  · exact .same json
  · rfl

theorem Update.part_refl (name : String) (json : Json) : Update.part name json json := by
  unfold Update.part
  split
  · exact .same json
  · exact .same json
  · rfl

/-! ## Reading -/

theorem readsAlike_user : ReadsAlike User.ofDocument? User.Alike := by
  refine readsAlike_record (fun _ _ => rfl) fun alike => ?_
  rw [alike.required? "id" (by decide) readsAlike_int64,
    alike.orDefault? "is_bot" (by decide) false readsAlike_bool,
    alike.required? "first_name" (by decide) readsAlike_string]

theorem readsAlike_chat : ReadsAlike chatOfDocument? ChatsAlike :=
  readsAlike_record (fun _ _ => rfl) fun alike => alike.required? "id" (by decide) readsAlike_int64

theorem readsAlike_message : ReadsAlike Message.ofDocument? Message.Alike := by
  refine readsAlike_record Message.part_refl fun alike => ?_
  rw [alike.required? "message_id" (by decide) readsAlike_int64,
    alike.required? "chat" (by decide) readsAlike_chat,
    alike.orDefault? "from" (by decide) none (readsAlike_user.nullable? Json.Alike.null_iff),
    alike.orDefault? "text" (by decide) none (readsAlike_string.nullable? (· ▸ .rfl))]

theorem readsAlike_callbackQuery : ReadsAlike CallbackQuery.ofDocument? CallbackQuery.Alike := by
  refine readsAlike_record CallbackQuery.part_refl fun alike => ?_
  rw [alike.required? "id" (by decide) readsAlike_string,
    alike.required? "from" (by decide) readsAlike_user,
    alike.orDefault? "message" (by decide) none (readsAlike_message.nullable? Json.Alike.null_iff),
    alike.orDefault? "data" (by decide) none (readsAlike_string.nullable? (· ▸ .rfl))]

theorem readsAlike_update : ReadsAlike Update.ofDocument? Update.Alike := by
  refine readsAlike_record Update.part_refl fun alike => ?_
  rw [alike.required? "update_id" (by decide) readsAlike_int64,
    alike.orDefault? "message" (by decide) none (readsAlike_message.nullable? Json.Alike.null_iff),
    alike.orDefault? "callback_query" (by decide) none
      (readsAlike_callbackQuery.nullable? Json.Alike.null_iff)]

/-! ## Events -/

namespace InboundEvent

variable {event : InboundEvent}

theorem ofCallback?_eq_some_iff {query : CallbackQuery} :
    ofCallback? query = some event ↔ ∃ message text, query.message = some message ∧
      query.data = some text ∧ text ≠ "" ∧
        event = ⟨message.chat, text, some query.sender.firstName, some query.id⟩ := by
  rw [ofCallback?]
  cases query.message <;> cases query.data <;> simp [@eq_comm _ event]

theorem ofMessage?_eq_some_iff {message : Message} :
    ofMessage? message = some event ↔ ∃ text, message.text = some text ∧ text ≠ "" ∧
      event = ⟨message.chat, text, message.sender.map (·.firstName), none⟩ := by
  rw [ofMessage?]
  cases message.text <;> simp [@eq_comm _ event]

end InboundEvent

/-- Further fields make no difference to the update that is read, at whatever level they stand.
With a tapped button the event is the tap, which needs its message and a text; without one it is
the message, which needs a text. -/
theorem updates_are_told_by_members :
    (∀ {depth deeper : Nat} {json other : Json} {update : Update},
      Regular depth json → Regular deeper other → Update.Alike json other →
      Update.ofDocument? (ofValue json) = some update →
        Update.ofDocument? (ofValue other) = some update) ∧
    ∀ (update : Update) (event : InboundEvent),
      InboundEvent.ofUpdate? update = some event ↔
        (∃ query message text, update.callbackQuery = some query ∧
          query.message = some message ∧ query.data = some text ∧ text ≠ "" ∧
            event = ⟨message.chat, text, some query.sender.firstName, some query.id⟩) ∨
        (update.callbackQuery = none ∧ ∃ message text, update.message = some message ∧
          message.text = some text ∧ text ≠ "" ∧
            event = ⟨message.chat, text, message.sender.map (·.firstName), none⟩) := by
  refine ⟨fun regular others alike read => ?_, fun update event => ?_⟩
  · rw [← read]
    exact (readsAlike_update ⟨_, _, means_ofValue regular, means_ofValue others, alike⟩).symm
  · rw [InboundEvent.ofUpdate?]
    cases update.callbackQuery with
    | some query => simp [InboundEvent.ofCallback?_eq_some_iff]
    | none => simp [Option.bind_eq_some_iff, InboundEvent.ofMessage?_eq_some_iff]

/-- The title of a chat and the edit of a message are passed over. -/
theorem updates_are_told_by_members_titled :
    let message (chat : Json.Fields) : Json := .object [("chat", .object chat),
      ("message_id", .ofInt64 2), ("text", .string "hi")]
    Update.ofDocument? (ofValue (.object [("edited_message", .null),
      ("message", message [("id", .ofInt64 5), ("title", .string "Home")]),
      ("update_id", .ofInt64 1)])) = some ⟨1, some ⟨2, 5, none, some "hi"⟩, none⟩ := by
  intro message
  have regular {json : Json} (read : Json.Document.value? 3 (ofValue json) = some json) :
      Regular 3 json := Json.Document.regular_of_value? read
  let plain : Json := .object [("message", message [("id", .ofInt64 5)]),
    ("update_id", .ofInt64 1)]
  have chats : ChatsAlike (.object [("id", .ofInt64 5)])
      (.object [("id", .ofInt64 5), ("title", .string "Home")]) :=
    Json.alike_added (fun _ _ => rfl) (List.pairwise_singleton _ _) [("title", .string "Home")]
      (by decide)
  have messages : Message.Alike (message [("id", .ofInt64 5)])
      (message [("id", .ofInt64 5), ("title", .string "Home")]) := by
    refine .object ?_
    simp only [List.forall_mem_cons]
    exact ⟨.some rfl, .some chats, .none, .some rfl, nofun⟩
  have plain_regular : Regular 3 plain := regular (by rfl)
  refine updates_are_told_by_members.1 plain_regular (regular (by rfl)) ?_ rfl
  refine .object ?_
  simp only [List.forall_mem_cons]
  exact ⟨.some rfl, .some messages, .none, nofun⟩

end Chatflow
