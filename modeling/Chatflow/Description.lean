import Chatflow.Agent
import Chatflow.Runner.Settings
import Chatflow.Store
import Chatflow.Text.Quoted

/-!
# Descriptions

Texts that show values to whoever reads the log of the program.  A secret is never shown: a fixed
word stands in its place, so the description says at most whether there is one.
-/

namespace Chatflow.Description

open Text (quote)

/-! ## Parts -/

/-- A value of a named type with one part. -/
def wrapped (name part : String) : String := name ++ "(" ++ part ++ ")"

/-- A value of a named type with named members. -/
def record (name : String) (members : List (String × String)) : String :=
  name ++ " \x7b " ++
    ", ".intercalate (members.map fun (member, text) => member ++ ": " ++ text) ++ " \x7d"

def optional (describe : α → String) : Option α → String
  | none => "None"
  | some value => wrapped "Some" (describe value)

/-- What stands for a secret, whatever it is. -/
def secret (_ : String) : String := quote "<redacted>"

def boolean (value : Bool) : String := if value then "true" else "false"

def botId (id : BotId) : String := wrapped "BotId" (wrapped "Ulid" (toString id.value.val))

def chat (id : ChatId) : String := wrapped "ChatId" (toString id.toInt)

def prompt (prompt : Prompt) : String := record "PromptTemplate" [("content", quote prompt.content)]

def provider : Provider → String
  | .openai => "OpenAi"
  | .gemini => "Gemini"

/-! ## Values that hold secrets -/

def request (request : GenerationRequest) : String :=
  record "GenerateRequest"
    [("provider", provider request.provider), ("api_key", secret request.apiKey),
     ("model", optional quote request.model), ("system", quote request.system),
     ("user", quote request.user)]

def agent (agent : Agent) : String :=
  record "AgentConfig"
    [("provider", provider agent.provider), ("api_key", optional secret agent.apiKey),
     ("model", optional quote agent.model), ("system_message", prompt agent.systemPrompt),
     ("user_message", prompt agent.userPrompt)]

def identity (bot : BotIdentity) : String :=
  record "BotIdentity" [("id", optional botId bot.id), ("token", secret bot.token)]

def context (context : RunContext) : String :=
  record "ExecutionContext"
    [("bot", identity context.bot), ("chat_id", chat context.chat),
     ("user_text", quote context.userText), ("user_name", optional quote context.userName),
     ("is_callback", boolean context.isCallback)]

def bot (bot : BotRecord) : String :=
  record "BotRecord"
    [("id", botId bot.id), ("name", quote bot.name), ("token", secret bot.token),
     ("last_run_at", optional Instant.text bot.lastRunAt)]

def client (client : BotApi.Client) : String :=
  record "TelegramClient" [("base_url", quote client.baseUrl), ("token", secret client.token)]

def settings (settings : Runner.Settings) : String :=
  record "TelegramConfig"
    [("api_base_url", quote settings.api.baseUrl), ("token", optional secret settings.token),
     ("request_timeout_secs", toString settings.api.timeoutSeconds)]

end Chatflow.Description
