import Chatflow.BotApi
import Chatflow.Config.Environment
import Chatflow.Config.File

/-!
# Settings of the runner

What the runner has to know beyond its command line: what to log, where the Bot API is, and the
secret with which it is called.  Settings come from a file and from the environment, which counts
for more; what neither of them sets has a default.
-/

namespace Chatflow.Runner

open Config (Value)

structure Settings where
  logFilter : String := "info"
  /-- The secret is only needed if messages are sent. -/
  token : Option String := none
  api : BotApi.Settings := {}
deriving DecidableEq, Repr

namespace Settings

def ofApiValue? (logFilter : String) (value : Value) : Option Settings := do
  let defaults : BotApi.Settings := {}
  let members ← value.members? ["api_base_url", "token", "request_timeout_secs"]
  let baseUrl ← Value.member members "api_base_url" defaults.baseUrl Value.text?
  let token ← Value.member members "token" none (Value.nullable? Value.text?)
  let timeoutSeconds ←
    Value.member members "request_timeout_secs" defaults.timeoutSeconds Value.natural?
  some { logFilter, token, api := { baseUrl, timeoutSeconds } }

def ofValue? (value : Value) : Option Settings := do
  let defaults : Settings := {}
  let logFilter ← Value.member value.entries "log_filter" defaults.logFilter Value.text?
  match value.entries.lookup "telegram" with
  | some api => ofApiValue? logFilter api
  | none => some { defaults with logFilter }

def environmentWord : String := "flowbot"

/-- The settings of a file, if one is named, under environment variables.  The file is given by its
name and its text, which is missing if it cannot be read. -/
def load? (file : Option (String × Option String)) (environment : Config.Environment.Variables) :
    Option Settings := do
  let entries ←
    match file with
    | none => some []
    | some (path, text) => text.bind (Config.fileEntries? path)
  let base := Value.addSource (.table []) entries
  ofValue? (base.addSource (Config.Environment.entries environmentWord environment))

end Settings

end Chatflow.Runner
