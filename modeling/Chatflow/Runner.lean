import Chatflow.Json.Writer
import Chatflow.Outbox
import Chatflow.Run
import Chatflow.Runner.CommandLine
import Chatflow.Runner.Error
import Chatflow.Runner.Settings

/-!
# The runner

The runner runs one definition on one message and writes the result.  It sends what the run sends,
or keeps it in an outbox if the command line says so.  There is no text generator.
-/

namespace Chatflow.Runner

open CommandLine (Task)

/-! ## Calls -/

inductive Call where
  | fileText (path : String)
  | now
  | exchange (post : Http.Post)
deriving DecidableEq

def Call.Answer : Call → Type
  | fileText _ => Except String String
  | now => Instant
  | exchange _ => Except Http.Failure Http.Reply

abbrev RunnerProgram := Program Call Call.Answer

namespace RunnerProgram

def fileText (path : String) : RunnerProgram (Except String String) :=
  Program.ask (Call.fileText path)

def now : RunnerProgram Instant := Program.ask Call.now

def ofExchange (program : Http.Exchange α) : RunnerProgram α :=
  Program.embed Call.exchange (fun _ answer => answer) program

end RunnerProgram

/-! ## Runs -/

/-- What a run is told that asks for a text. -/
def noGenerator (request : GenerationRequest) : GenerationError :=
  .unavailable request.provider "no text generator configured"

def answerSending (client : BotApi.Client) : (call : RunCall) → RunnerProgram call.Answer
  | .now => RunnerProgram.now
  | .send message => RunnerProgram.ofExchange (client.sendMessage message)
  | .generate request => pure (Except.error (noGenerator request) : Except GenerationError String)

def answerKeeping : (call : RunCall) → StateT Outbox RunnerProgram call.Answer
  | .now => (StateT.lift RunnerProgram.now : StateT Outbox RunnerProgram Instant)
  | .send message => fun outbox => pure (outbox.send message)
  | .generate request => fun outbox => pure (Except.error (noGenerator request), outbox)

def contextOf (task : Task) (token : String) : RunContext where
  bot := { token }
  chat := task.chat
  userText := task.text
  userName := task.userName
  isCallback := task.callback

def runTask (task : Task) (settings : Settings) (definition : String) :
    RunnerProgram (Except Error RunResult) := do
  let token := settings.token.getD ""
  -- Without a generator no prompt is filled in, and any order will do.
  let program := Chatflow.run (some definition) false default none (contextOf task token)
  if task.dryRun then
    let (result, _) ← (program.answeredBy answerKeeping).run {}
    return .ok result
  else if token.isEmpty then return .error .missingToken
  else
    let result ← program.answeredBy (answerSending (.ofSettings token settings.api))
    return .ok result

/-! ## Reports -/

/-- What the runner leaves behind: an exit code, lines of output and lines of complaint. -/
structure Report where
  exitCode : Nat
  output : List String := []
  complaint : List String := []
deriving DecidableEq, Repr

def Report.ofResult (result : RunResult) : Report where
  exitCode := if result.isFailed then 1 else 0
  output := Json.indentedLines 0 result.toJson

def Report.ofError (error : Error) : Report := { exitCode := 1, complaint := [error.message] }

def Report.refusal : Report := { exitCode := 2, complaint := [CommandLine.usage] }

def Report.badSettings : Report := { exitCode := 1, complaint := ["failed to load configuration"] }

/-! ## The whole runner -/

def loadSettings (task : Task) (environment : Config.Environment.Variables) :
    RunnerProgram (Option Settings) := do
  match task.config with
  | none => return Settings.load? none environment
  | some path =>
    let text ← RunnerProgram.fileText path
    return Settings.load? (some (path, text.toOption)) environment

def perform (task : Task) (environment : Config.Environment.Variables) : RunnerProgram Report := do
  match ← loadSettings task environment with
  | none => return .badSettings
  | some settings =>
    match ← RunnerProgram.fileText task.definition with
    | .error reason => return .ofError (.readDefinition task.definition reason)
    | .ok definition =>
      match ← runTask task settings definition with
      | .error error => return .ofError error
      | .ok result => return .ofResult result

def program (words : List String) (environment : Config.Environment.Variables) :
    RunnerProgram Report :=
  let configured := environment.reverse.lookup CommandLine.configVariable
  match CommandLine.read words configured with
  | .showVersion => return { exitCode := 0, output := [CommandLine.version] }
  | .showHelp => return { exitCode := 0, output := CommandLine.help configured }
  | .refuse => return .refusal
  | .run task => perform task environment

end Chatflow.Runner
