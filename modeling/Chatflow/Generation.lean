import Chatflow.Json.Record
import Chatflow.Text.Occurrence

/-!
# Text generation

A request for a text from a language model, and the ways in which it can fail.
-/

namespace Chatflow

inductive Provider where
  | openai
  | gemini
deriving DecidableEq, Repr

namespace Provider

def name : Provider → String
  | openai => "openai"
  | gemini => "gemini"

/-- The provider with a name that an author gives; all names but one mean the first. -/
def ofSetting (name : Option String) : Provider := if name = some "gemini" then gemini else openai

def defaultModel : Provider → String
  | openai => "gpt-4o"
  | gemini => "gemini-pro"

def toJson (provider : Provider) : Json := .string provider.name

def ofDocument? : Json.Document → Option Provider :=
  Json.Document.name? ([openai, gemini].map fun provider => (provider.name, provider))

end Provider

structure GenerationRequest where
  provider : Provider
  apiKey : String
  model : Option String
  system : String
  user : String
deriving DecidableEq, Repr

/-- The model that is asked: the one of the request if it can belong to the provider. -/
def GenerationRequest.effectiveModel (request : GenerationRequest) : String :=
  match request.provider, request.model with
  | .gemini, some model => if Text.contains model "gemini" then model else Provider.gemini.defaultModel
  | .openai, some model => if model.isEmpty then Provider.openai.defaultModel else model
  | provider, none => provider.defaultModel

inductive GenerationError where
  | unavailable (provider : Provider) (reason : String)
  | requestFailed (provider : Provider) (reason : String)
  | invalidConfig (reason : String)
deriving DecidableEq, Repr

def GenerationError.message : GenerationError → String
  | unavailable provider reason => provider.name ++ " unavailable: " ++ reason
  | requestFailed provider reason => provider.name ++ " request failed: " ++ reason
  | invalidConfig reason => "invalid generation config: " ++ reason

end Chatflow
