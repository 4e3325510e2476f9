import Chatflow.Json.Record
import Chatflow.Text.Occurrence

/-!
# Inline keyboards

Buttons below a message.  A button either opens a link or sends a text back to the bot.  Authors
give one text for both cases, and what it looks like tells them apart.
-/

namespace Chatflow

open Text

inductive Button where
  | link (text url : String)
  | callback (text data : String)
deriving DecidableEq, Repr

namespace Button

def text : Button → String
  | link text _ => text
  | callback text _ => text

def isLink : Button → Bool
  | link _ _ => true
  | callback _ _ => false

def looksLikeLink (payload : String) : Bool :=
  startsWith payload "http" || startsWith payload "t.me"

def ofPayload (text payload : String) : Button :=
  if looksLikeLink payload then link text payload else callback text payload

/-! ## JSON -/

def toJson : Button → Json
  | link text url => .object [("text", .string text), ("url", .string url)]
  | callback text data => .object [("text", .string text), ("callback_data", .string data)]

def ofTexts? (key : String) (make : String → String → Button) (document : Json.Document) :
    Option Button := do
  let members ← document.members? ["text", key]
  let text ← members.required? "text" Json.Document.string?
  let payload ← members.required? key Json.Document.string?
  some (make text payload)

/-- Reads a link, or else a callback.  The whole object has to be readable as a free-form value of
the given depth. -/
def ofDocument? (depth : Nat) : Json.Document → Option Button
  | .object fields =>
    let document := Json.Document.object fields
    if (document.value? depth).isSome then
      (ofTexts? "url" link document).or (ofTexts? "callback_data" callback document)
    else none
  | _ => none

end Button

structure Keyboard where
  rows : List (List Button)
deriving DecidableEq, Repr

namespace Keyboard

def singleColumn (buttons : List Button) : Keyboard := ⟨buttons.map fun button => [button]⟩

def isEmpty (keyboard : Keyboard) : Bool := keyboard.rows.all List.isEmpty

/-! ## JSON -/

def toJson (keyboard : Keyboard) : Json :=
  .object [("inline_keyboard",
    .array (keyboard.rows.map fun row => .array (row.map Button.toJson)))]

/-- Reads a keyboard, whose buttons nest three levels deeper. -/
def ofDocument? (depth : Nat) (document : Json.Document) : Option Keyboard := do
  let members ← document.members? ["inline_keyboard"]
  let rows ← members.required? "inline_keyboard"
    (Json.Document.list? (Json.Document.list? (Button.ofDocument? (depth - 3))))
  some ⟨rows⟩

end Keyboard

end Chatflow
