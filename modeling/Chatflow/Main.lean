import Chatflow.Runner
import Std.Time.DateTime.Timestamp

/-!
# The command line program

Answers the calls of the runner from the files and the clock of the machine, and writes its report.
The program has no network, so nobody answers what it posts.
-/

namespace Chatflow.Main

open Runner (Call)

def readFile (path : String) : IO (Except String String) := do
  try
    return .ok (← IO.FS.readFile path)
  catch failure => return .error (toString failure)

def answer : (call : Call) → IO call.Answer
  | .fileText path => readFile path
  | .now => do
    let time ← Std.Time.Timestamp.now
    return (Instant.ofUnixNanoseconds time.toNanosecondsSinceUnixEpoch.toInt : Instant)
  | .exchange post => return Http.unanswered post

/-- The variables in the text that lists the environment of the process. -/
def variablesOf (text : String) : Config.Environment.Variables :=
  (Text.split text '\x00').filterMap fun entry =>
    let name := String.ofList (entry.toList.takeWhile (· != '='))
    match entry.toList.dropWhile (· != '=') with
    | _ :: value => some (name, String.ofList value)
    | [] => none

end Chatflow.Main

open Chatflow in
def main (words : List String) : IO UInt32 := do
  let environment ← Main.readFile "/proc/self/environ"
  let given := Main.variablesOf (environment.toOption.getD "")
  let report ← (Runner.program words given).answeredBy Main.answer
  for line in report.output do
    IO.println line
  for line in report.complaint do
    IO.eprintln line
  return report.exitCode.toUInt32
