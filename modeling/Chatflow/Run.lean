import Chatflow.Walk

/-!
# Runs

A run reads a definition, looks for the trigger that an event starts, and walks from there.  The
result tells what happened; a run never fails otherwise.
-/

namespace Chatflow

def triggerName (trigger : Node) : String :=
  if trigger.label.isEmpty then "Unknown Trigger" else trigger.label

def RunResult.ofWalk (trigger : Node) (walk : Progress WalkEnd) : RunResult :=
  let steps := ("Triggered by: " ++ triggerName trigger) :: walk.steps
  match walk.outcome with
  | .ok _ => .success steps
  | .error failure => .failed (steps ++ ["Error: " ++ failure.message]) failure.message

def runGraph (graph : Graph) (canGenerate : Bool) (orders : Nat → VariableOrder)
    (workflowId : Option WorkflowId) (startedAt : Instant) (context : RunContext) :
    RunProgram RunResult :=
  match graph.select context with
  | none => return .noMatch
  | some trigger => do
    let progress ← walk graph canGenerate orders context trigger
    let finishedAt ← RunProgram.now
    return ((RunResult.ofWalk trigger progress).withWorkflowId workflowId).withTiming
      startedAt finishedAt

/-- Runs the definition with the stored text on an event.  In which order the prompts of the request
on a step are filled in is not for the run to say. -/
def run (definition : Option String) (canGenerate : Bool) (orders : Nat → VariableOrder)
    (workflowId : Option WorkflowId) (context : RunContext) : RunProgram RunResult := do
  let startedAt ← RunProgram.now
  match Definition.parse definition with
  | .error failure => return .ofDefinitionError failure
  | .ok definition =>
    runGraph (.ofDefinition definition) canGenerate orders workflowId startedAt context

end Chatflow
