import Chatflow.Message

/-!
# Updates

An update tells a bot that somebody wrote to it or tapped one of its buttons.  Of all that the
platform says only the parts that decide about an answer are read.  An update that carries both a
message and a tapped button counts as the tap.
-/

namespace Chatflow

open Json (Document)

structure User where
  id : Int64
  isBot : Bool
  firstName : String
deriving DecidableEq, Repr

structure Message where
  messageId : Int64
  chat : ChatId
  sender : Option User
  text : Option String
deriving DecidableEq, Repr

/-- A tapped button. -/
structure CallbackQuery where
  id : String
  sender : User
  message : Option Message
  data : Option String
deriving DecidableEq, Repr

structure Update where
  updateId : Int64
  message : Option Message
  callbackQuery : Option CallbackQuery
deriving DecidableEq, Repr

/-! ## Reading -/

def User.ofDocument? (document : Document) : Option User := do
  let members ← document.members? ["id", "is_bot", "first_name"]
  let id ← members.required? "id" Document.int64?
  let isBot ← members.orDefault? "is_bot" false Document.bool?
  let firstName ← members.required? "first_name" Document.string?
  some { id, isBot, firstName }

def chatOfDocument? (document : Document) : Option ChatId := do
  let members ← document.members? ["id"]
  members.required? "id" Document.int64?

def Message.ofDocument? (document : Document) : Option Message := do
  let members ← document.members? ["message_id", "chat", "from", "text"]
  let messageId ← members.required? "message_id" Document.int64?
  let chat ← members.required? "chat" chatOfDocument?
  let sender ← members.orDefault? "from" none (Document.nullable? User.ofDocument?)
  let text ← members.orDefault? "text" none (Document.nullable? Document.string?)
  some { messageId, chat, sender, text }

def CallbackQuery.ofDocument? (document : Document) : Option CallbackQuery := do
  let members ← document.members? ["id", "from", "message", "data"]
  let id ← members.required? "id" Document.string?
  let sender ← members.required? "from" User.ofDocument?
  let message ← members.orDefault? "message" none (Document.nullable? Message.ofDocument?)
  let data ← members.orDefault? "data" none (Document.nullable? Document.string?)
  some { id, sender, message, data }

def Update.ofDocument? (document : Document) : Option Update := do
  let members ← document.members? ["update_id", "message", "callback_query"]
  let updateId ← members.required? "update_id" Document.int64?
  let message ← members.orDefault? "message" none (Document.nullable? Message.ofDocument?)
  let callbackQuery ← members.orDefault? "callback_query" none
    (Document.nullable? CallbackQuery.ofDocument?)
  some { updateId, message, callbackQuery }

/-! ## Writing -/

def User.toJson (user : User) : Json :=
  .object [("id", .ofInt64 user.id), ("is_bot", .bool user.isBot),
    ("first_name", .string user.firstName)]

def Message.toJson (message : Message) : Json :=
  .object ([("message_id", .ofInt64 message.messageId),
      ("chat", .object [("id", .ofInt64 message.chat)])] ++
    Json.fieldIfSome "from" User.toJson message.sender ++
    Json.fieldIfSome "text" .string message.text)

def CallbackQuery.toJson (query : CallbackQuery) : Json :=
  .object ([("id", .string query.id), ("from", query.sender.toJson)] ++
    Json.fieldIfSome "message" Message.toJson query.message ++
    Json.fieldIfSome "data" .string query.data)

def Update.toJson (update : Update) : Json :=
  .object ([("update_id", .ofInt64 update.updateId)] ++
    Json.fieldIfSome "message" Message.toJson update.message ++
    Json.fieldIfSome "callback_query" CallbackQuery.toJson update.callbackQuery)

/-! ## Events -/

/-- What somebody said to a bot, by a message or by a button. -/
structure InboundEvent where
  chat : ChatId
  text : String
  userName : Option String
  callbackId : Option String
deriving DecidableEq, Repr

namespace InboundEvent

def isCallback (event : InboundEvent) : Bool := event.callbackId.isSome

/-- The tap on a button, if its message and a text are known. -/
def ofCallback? (query : CallbackQuery) : Option InboundEvent :=
  match query.message, query.data with
  | some message, some text =>
    if text.isEmpty then none
    else some ⟨message.chat, text, some query.sender.firstName, some query.id⟩
  | _, _ => none

/-- The message, if it has a text. -/
def ofMessage? (message : Message) : Option InboundEvent :=
  match message.text with
  | some text =>
    if text.isEmpty then none
    else some ⟨message.chat, text, message.sender.map (·.firstName), none⟩
  | none => none

/-- The event of an update; a button hides a message. -/
def ofUpdate? (update : Update) : Option InboundEvent :=
  match update.callbackQuery with
  | some query => ofCallback? query
  | none => update.message.bind ofMessage?

end InboundEvent

end Chatflow
