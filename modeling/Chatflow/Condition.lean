import Chatflow.Json.Basic
import Chatflow.Text.Blank
import Chatflow.Text.LetterCase
import Chatflow.Text.Occurrence

/-!
# Conditions

A condition looks for keywords in a text, case set aside.  One of the keywords is enough, and an
empty keyword is found in every text.  Conditions of other kinds are known by their label only and
count as false.
-/

namespace Chatflow

open Text

inductive Condition where
  | keyword (keywords : List String)
  | unimplemented (kind : String)
deriving DecidableEq, Repr

inductive ConditionOutcome where
  | evaluated (result : Bool)
  | unimplemented (kind : String)
deriving DecidableEq, Repr

namespace ConditionOutcome

/-- The branch that is taken. -/
def branch : ConditionOutcome → Bool
  | evaluated result => result
  | unimplemented _ => false

def traceEntry : ConditionOutcome → String
  | evaluated true => "Condition result: true"
  | evaluated false => "Condition result: false"
  | unimplemented kind =>
    "Condition result: false (unimplemented condition kind: " ++ kind ++ ")"

end ConditionOutcome

namespace Condition

/-- The keywords of a list that is written with commas. -/
def keywordsOf (list : String) : List String :=
  (split list ',').map fun keyword => lower (trim keyword)

def ofConfig (label : String) (config : Json.Fields) : Condition :=
  if Text.contains label "Keyword" then
    keyword (keywordsOf (((config.get? "keywords").bind Json.string?).getD ""))
  else unimplemented label

def evaluate (condition : Condition) (text : String) : ConditionOutcome :=
  match condition with
  | keyword keywords => .evaluated (keywords.any (Text.contains (lower text)))
  | unimplemented kind => .unimplemented kind

end Condition

end Chatflow
