import Chatflow.Json.Basic

/-!
# Settings of nodes

The settings of a node are the fields of its config.  A text that is empty counts as not given.
-/

namespace Chatflow

def textSetting? (config : Json.Fields) (key : String) : Option String :=
  ((config.get? key).bind Json.string?).filter fun text => !text.isEmpty

end Chatflow
