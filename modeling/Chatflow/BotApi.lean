import Chatflow.BotApi.Http
import Chatflow.Json.Reader
import Chatflow.Message

/-!
# The bot API

The messenger platform offers methods over HTTP.  A method is called by posting its parameters, and
the answer comes in an envelope that tells whether the platform agreed.  Only the envelope decides;
the status code of the exchange is told in messages but never looked at.
-/

namespace Chatflow.BotApi

open Json (Document)

/-! ## Clients -/

structure Settings where
  baseUrl : String := "https://api.telegram.org"
  timeoutSeconds : Nat := 30
deriving DecidableEq, Repr

structure Client where
  baseUrl : String
  token : String
deriving DecidableEq, Repr

def dropSlashes (text : String) : String :=
  String.ofList (text.toList.reverse.dropWhile (· == '/')).reverse

def Client.ofSettings (token : String) (settings : Settings) : Client :=
  ⟨dropSlashes settings.baseUrl, token⟩

def Client.endpoint (client : Client) (method : String) : String :=
  client.baseUrl ++ "/bot" ++ client.token ++ "/" ++ method

/-! ## Envelopes -/

structure Envelope (α : Type) where
  ok : Bool
  result : Option α
  description : Option String
  errorCode : Option Int64

def Envelope.ofDocument? (read : Document → Option α) (document : Document) :
    Option (Envelope α) := do
  let members ← document.members? ["ok", "result", "description", "error_code"]
  let ok ← members.required? "ok" Document.bool?
  let result ← members.optional? "result" read
  let description ← members.optional? "description" Document.string?
  let errorCode ← members.optional? "error_code" Document.int64?
  some { ok, result, description, errorCode }

/-- What an envelope holds for the caller of a method. -/
def Envelope.unwrap (method : String) (envelope : Envelope α) : Except TransportError α :=
  if envelope.ok then
    match envelope.result with
    | some result => .ok result
    | none => .error (.invalidResponse method "missing result")
  else
    .error (.rejected method envelope.errorCode (envelope.description.getD "no description"))

def interpret (method : String) (read : Document → Option α) (reply : Http.Reply) :
    Except TransportError α :=
  match (Json.readDocument? reply.body).bind (Envelope.ofDocument? read) with
  | some envelope => envelope.unwrap method
  | none =>
    .error (.invalidResponse method
      ("HTTP " ++ Http.statusText reply.status ++ ": error decoding response body"))

/-! ## Methods -/

def Client.call (client : Client) (method : String) (parameters : Json)
    (read : Document → Option α) : Http.Exchange (Except TransportError α) := do
  match ← Http.post ⟨client.endpoint method, parameters⟩ with
  | .error failure => return .error (.request method failure.message)
  | .ok reply => return interpret method read reply

def messageParameters (message : OutgoingMessage) : Json :=
  .object ([("chat_id", .ofInt64 message.chat), ("text", .string message.text)] ++
    message.options.fields)

def Client.sendMessage (client : Client) (message : OutgoingMessage) :
    Http.Exchange (Except TransportError Receipt) :=
  client.call "sendMessage" (messageParameters message) Receipt.ofDocument?

def Client.sendPhoto (client : Client) (chat : ChatId) (photo : String) (caption : Option String) :
    Http.Exchange (Except TransportError Receipt) :=
  client.call "sendPhoto"
    (.object [("caption", .ofOption .string caption), ("chat_id", .ofInt64 chat),
      ("parse_mode", ParseMode.markdown.toJson), ("photo", .string photo)])
    Receipt.ofDocument?

/-- Calls a method whose result is only that it worked. -/
def Client.callUnit (client : Client) (method : String) (parameters : Json) :
    Http.Exchange (Except TransportError Unit) := do
  let answer ← client.call method parameters Document.bool?
  return answer.map fun _ => ()

def Client.answerCallbackQuery (client : Client) (callbackId : String) (text : Option String) :
    Http.Exchange (Except TransportError Unit) :=
  client.callUnit "answerCallbackQuery"
    (.object [("callback_query_id", .string callbackId), ("text", .ofOption .string text)])

def Client.deleteMessage (client : Client) (chat : ChatId) (messageId : Int64) :
    Http.Exchange (Except TransportError Unit) :=
  client.callUnit "deleteMessage"
    (.object [("chat_id", .ofInt64 chat), ("message_id", .ofInt64 messageId)])

end Chatflow.BotApi
