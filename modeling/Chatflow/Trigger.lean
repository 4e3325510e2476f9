import Chatflow.Pattern.Compile
import Chatflow.Setting
import Chatflow.Text.LetterCase
import Chatflow.Text.Occurrence

/-!
# Triggers

A trigger tells on which texts a workflow starts.  A command has to be the whole text up to case
and blanks around it, also if a button sends it.  A message rule looks at typed texts only.
-/

namespace Chatflow

open Text

inductive MessageRule where
  | any
  /-- The same up to case; the text of the rule is in lower case. -/
  | exact (text : String)
  | contains (text : String)
  | fits (source : String) (pattern : Pattern)
  | never
deriving DecidableEq, Repr

inductive Trigger where
  | command (command : String)
  | message (rule : MessageRule)
  | unsupported
deriving DecidableEq, Repr

namespace MessageRule

def caseless (pattern : String) : String := "(?i)" ++ pattern

/-- The rule for a pattern; texts that are no pattern never match. -/
def ofPattern (pattern : String) : MessageRule :=
  match Pattern.ofText? (caseless pattern) with
  | some compiled => fits (caseless pattern) compiled
  | none => never

def ofConfig (config : Json.Fields) : MessageRule :=
  match textSetting? config "pattern" with
  | none => any
  | some pattern =>
    match textSetting? config "matchType" with
    | none => exact (lower pattern)
    | some kind =>
      if kind = "exact" then exact (lower pattern)
      else if kind = "contains" then contains (lower pattern)
      else if kind = "regex" then ofPattern pattern
      else never

def accepts (rule : MessageRule) (text : String) : Bool :=
  match rule with
  | any => true
  | exact expected => lower text == expected
  | contains part => Text.contains (lower text) part
  | fits _ pattern => pattern.isFoundIn text
  | never => false

end MessageRule

namespace Trigger

def defaultCommand : String := "/start"

/-- The trigger of a node: a command if one is set, else what the label tells. -/
def ofConfig (label : String) (config : Json.Fields) : Trigger :=
  match textSetting? config "command" with
  | some name => command name
  | none =>
    if Text.contains label "Command" then command defaultCommand
    else if Text.contains label "Message" then message (MessageRule.ofConfig config)
    else unsupported

def normalize (text : String) : String := lower (trim text)

def accepts (trigger : Trigger) (text : String) (isCallback : Bool) : Bool :=
  match trigger with
  | command name => normalize text == normalize name
  | message rule => !isCallback && rule.accepts text
  | unsupported => false

end Trigger

end Chatflow
