/-!
# Errors of the runner

What keeps the runner from running a definition at all.  A run that fails is no such error.
-/

namespace Chatflow.Runner

inductive Error where
  | readDefinition (path reason : String)
  | missingToken
  | transport (reason : String)
  | output (reason : String)
deriving DecidableEq, Repr

def Error.message : Error → String
  | readDefinition path reason => "failed to read definition '" ++ path ++ "': " ++ reason
  | missingToken =>
    "no bot token configured (set FLOWBOT__TELEGRAM__TOKEN or use --dry-run)"
  | transport reason => "failed to create Telegram client: " ++ reason
  | output reason => "failed to serialize result: " ++ reason

end Chatflow.Runner
