import Chatflow.Keyboard

/-!
# Outgoing messages

What a bot sends to a chat, the receipt for it, and the ways in which sending can fail.
-/

namespace Chatflow

abbrev ChatId := Int64

/-! ## Options -/

/-- The markup of a message text. -/
inductive ParseMode where
  | markdown
  | markdownV2
  | html
deriving DecidableEq, Repr

namespace ParseMode

def name : ParseMode → String
  | markdown => "Markdown"
  | markdownV2 => "MarkdownV2"
  | html => "HTML"

def names : List (String × ParseMode) := [markdown, markdownV2, html].map fun mode => (mode.name, mode)

def toJson (mode : ParseMode) : Json := .string mode.name

def ofDocument? : Json.Document → Option ParseMode := Json.Document.name? names

end ParseMode

structure SendOptions where
  parseMode : Option ParseMode := none
  keyboard : Option Keyboard := none
deriving DecidableEq, Repr

namespace SendOptions

def markdown : SendOptions := { parseMode := some .markdown }

/-- Sets the keyboard; one without buttons is left out. -/
def withKeyboard (options : SendOptions) (keyboard : Keyboard) : SendOptions :=
  { options with keyboard := if keyboard.isEmpty then none else some keyboard }

/-- The fields of the options that are set. -/
def fields (options : SendOptions) : Json.Fields :=
  Json.fieldIfSome "parse_mode" ParseMode.toJson options.parseMode ++
    Json.fieldIfSome "reply_markup" Keyboard.toJson options.keyboard

def toJson (options : SendOptions) : Json := .object options.fields

def ofDocument? (depth : Nat) (document : Json.Document) : Option SendOptions := do
  let members ← document.members? ["parse_mode", "reply_markup"]
  let parseMode ← members.optional? "parse_mode" ParseMode.ofDocument?
  let keyboard ← members.optional? "reply_markup" (Keyboard.ofDocument? (depth - 1))
  some { parseMode, keyboard }

end SendOptions

/-! ## Messages -/

structure OutgoingMessage where
  chat : ChatId
  text : String
  options : SendOptions
deriving DecidableEq, Repr

structure Receipt where
  messageId : Int64
deriving DecidableEq, Repr

namespace Receipt

def toJson (receipt : Receipt) : Json :=
  .object [("message_id", .ofInt64 receipt.messageId)]

def ofDocument? (document : Json.Document) : Option Receipt := do
  let members ← document.members? ["message_id"]
  let messageId ← members.required? "message_id" Json.Document.int64?
  some ⟨messageId⟩

end Receipt

/-! ## Failures -/

inductive TransportError where
  /-- There was no answer. -/
  | request (method reason : String)
  /-- The answer was a refusal. -/
  | rejected (method : String) (code : Option Int64) (description : String)
  /-- The answer made no sense. -/
  | invalidResponse (method reason : String)
  | setup (reason : String)
deriving DecidableEq, Repr

def TransportError.message : TransportError → String
  | request method reason => method ++ " request failed: " ++ reason
  | rejected method (some code) description =>
    method ++ " rejected (" ++ toString code.toInt ++ "): " ++ description
  | rejected method none description => method ++ " rejected: " ++ description
  | invalidResponse method reason => "invalid " ++ method ++ " response: " ++ reason
  | setup reason => "transport setup failed: " ++ reason

end Chatflow
