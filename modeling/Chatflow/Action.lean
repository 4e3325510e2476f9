import Chatflow.Message
import Chatflow.Setting

/-!
# Actions

An action sends a message, with a column of buttons below it if the author gave any.
-/

namespace Chatflow

open Text

structure ButtonSpec where
  text : String
  data : String
deriving DecidableEq, Repr

namespace ButtonSpec

def ofValue (value : Json) : ButtonSpec :=
  let text (key : String) : String := ((value.get? key).bind Json.string?).getD ""
  ⟨text "text", text "data"⟩

def button (spec : ButtonSpec) : Button := .ofPayload spec.text spec.data

end ButtonSpec

inductive Action where
  | sendMessage (message : String) (buttons : List ButtonSpec)
  | unsupported
deriving DecidableEq, Repr

namespace Action

def fallbackMessage : String := "No message configured"

/-- The action of a node; the label tells whether it sends something. -/
def ofConfig (label : String) (config : Json.Fields) : Action :=
  if Text.contains label "Send" || Text.contains label "Reply" then
    sendMessage ((textSetting? config "message").getD fallbackMessage)
      ((((config.get? "buttons").bind Json.array?).getD []).map ButtonSpec.ofValue)
  else unsupported

def sendOptions (buttons : List ButtonSpec) : SendOptions :=
  SendOptions.markdown.withKeyboard (.singleColumn (buttons.map ButtonSpec.button))

end Action

end Chatflow
