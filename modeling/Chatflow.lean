import Chatflow.Description
import Chatflow.Dispatch
import Chatflow.Graph.Diagnostics
import Chatflow.Main
import Chatflow.Proofs.Agent
import Chatflow.Proofs.Definition.Writing
import Chatflow.Proofs.Dispatch.Concurrency
import Chatflow.Proofs.Dispatch.Effect
import Chatflow.Proofs.Dispatch.Failure
import Chatflow.Proofs.Graph.Indexed
import Chatflow.Proofs.Graph.Numbering
import Chatflow.Proofs.Matching.Keywords
import Chatflow.Proofs.Matching.Literal
import Chatflow.Proofs.Matching.LowerCase
import Chatflow.Proofs.Matching.Words
import Chatflow.Proofs.Prompt
import Chatflow.Proofs.Records
import Chatflow.Proofs.Run.Arrangement
import Chatflow.Proofs.Run.Buttons
import Chatflow.Proofs.Run.Delivery
import Chatflow.Proofs.Run.Outcome
import Chatflow.Proofs.Run.Pruning
import Chatflow.Proofs.Run.Secrecy
import Chatflow.Proofs.Run.Start
import Chatflow.Proofs.Store.History
import Chatflow.Proofs.Walk.Diagnosis
import Chatflow.Proofs.RecordId.Order
import Chatflow.Proofs.RecordId.Reading
import Chatflow.Proofs.Json.Distinct
import Chatflow.Proofs.Json.Alike
import Chatflow.Proofs.Update
import Chatflow.Proofs.BotApi.Envelope
import Chatflow.Proofs.Dispatch.LastRun
import Chatflow.Proofs.Runner.Settings
