import Chatflow.Execution
import Chatflow.Generation
import Chatflow.Prompt
import Chatflow.Setting

/-!
# Agents

An agent has a language model write the answer.  Its prompts may mention what the user said and who
the user is.  Which of the two is filled in first is settled anew for each request, by chance.
-/

namespace Chatflow

/-- The order in which the prompts of one request are filled in. -/
inductive VariableOrder where
  | textFirst
  | nameFirst
deriving DecidableEq, Repr, Inhabited

structure Agent where
  provider : Provider
  apiKey : Option String
  model : Option String
  systemPrompt : Prompt
  userPrompt : Prompt
deriving DecidableEq, Repr

namespace Agent

def defaultUserPrompt : String := Prompt.placeholder "last_message"

def ofConfig (config : Json.Fields) : Agent where
  provider := .ofSetting (textSetting? config "provider")
  apiKey := textSetting? config "apiKey"
  model := textSetting? config "model"
  systemPrompt := ⟨(textSetting? config "systemMessage").getD ""⟩
  userPrompt := ⟨(textSetting? config "userMessage").getD defaultUserPrompt⟩

def promptVariables (order : VariableOrder) (context : RunContext) : Prompt.Variables :=
  let text := ("last_message", context.userText)
  let name := ("user_name", context.userName.getD "")
  match order with
  | .textFirst => [text, name]
  | .nameFirst => [name, text]

def request (agent : Agent) (order : VariableOrder) (context : RunContext) :
    Except GenerationError GenerationRequest :=
  match agent.apiKey with
  | none => .error (.invalidConfig (agent.provider.name ++ " agent has no apiKey"))
  | some apiKey =>
    .ok {
      provider := agent.provider
      apiKey
      model := agent.model
      system := agent.systemPrompt.render (promptVariables order context)
      user := agent.userPrompt.render (promptVariables order context) }

end Agent

end Chatflow
