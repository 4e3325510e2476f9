import Chatflow.Text.Occurrence

/-!
# Prompts

A prompt is a text with placeholders, names in doubled braces.  Rendering replaces the placeholders
that have a value, one variable after the other; all others stay as they are.
-/

namespace Chatflow

structure Prompt where
  content : String
deriving DecidableEq, Repr

namespace Prompt

abbrev Variables := List (String × String)

/-- Sets a variable; one that is there keeps its place. -/
def setVariable (name value : String) : Variables → Variables
  | [] => [(name, value)]
  | (n, v) :: rest => if n = name then (name, value) :: rest else (n, v) :: setVariable name value rest

def variablesOf (pairs : List (String × String)) : Variables :=
  pairs.foldl (fun known (name, value) => setVariable name value known) []

def placeholder (name : String) : String := "\x7b\x7b" ++ name ++ "\x7d\x7d"

def render (prompt : Prompt) (values : Variables) : String :=
  values.foldl (fun text (name, value) => Text.replaceAll text (placeholder name) value)
    prompt.content

end Prompt

end Chatflow
