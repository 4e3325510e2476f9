/-!
# Programs

A program is what a computation does apart from the answers it gets: it either is done, or makes a
call and goes on with any answer to it.  Everything that may fail or differ from time to time, such
as sending a message or looking at the clock, is a call.  Two programs that are equal therefore
behave the same in all surroundings, and `answeredBy` runs a program in given ones.
-/

namespace Chatflow

inductive Program (Call : Type) (Answer : Call → Type) (α : Type) where
  | done (value : α)
  | call (call : Call) (next : Answer call → Program Call Answer α)

namespace Program

variable {Call : Type} {Answer : Call → Type} {α β γ : Type}

/-! ## Composition -/

def andThen (program : Program Call Answer α) (next : α → Program Call Answer β) :
    Program Call Answer β :=
  match program with
  | done value => next value
  | call request continuation => call request fun answer => (continuation answer).andThen next

instance : Monad (Program Call Answer) where
  pure := done
  bind := andThen

def ask (request : Call) : Program Call Answer (Answer request) := call request done

@[simp] theorem done_bind (value : α) (next : α → Program Call Answer β) :
    (done value >>= next) = next value := rfl

@[simp] theorem call_bind (request : Call) (continuation : Answer request → Program Call Answer α)
    (next : α → Program Call Answer β) :
    (call request continuation >>= next) =
      call request fun answer => continuation answer >>= next := rfl

@[simp] theorem bind_done (program : Program Call Answer α) : (program >>= done) = program := by
  induction program with
  | done value => rfl
  | call request continuation inductionHypothesis =>
    rw [call_bind]
    exact congrArg (call request) (funext inductionHypothesis)

theorem bind_assoc (program : Program Call Answer α) (f : α → Program Call Answer β)
    (g : β → Program Call Answer γ) :
    (program >>= f >>= g) = program >>= fun value => f value >>= g := by
  induction program with
  | done value => rfl
  | call request continuation inductionHypothesis =>
    simp only [call_bind]
    exact congrArg (call request) (funext inductionHypothesis)

instance : LawfulMonad (Program Call Answer) :=
  LawfulMonad.mk' _ (fun program => bind_done program) (fun _ _ => rfl) bind_assoc

/-! ## Calls inside other calls -/

/-- The same program where its calls are some of the calls that can be made. -/
def embed {Outer : Type} {OuterAnswer : Outer → Type} (wrap : Call → Outer)
    (unwrap : (request : Call) → OuterAnswer (wrap request) → Answer request) :
    Program Call Answer α → Program Outer OuterAnswer α
  | done value => done value
  | call request continuation =>
    call (wrap request) fun answer => (continuation (unwrap request answer)).embed wrap unwrap

/-! ## Surroundings -/

def answeredBy {m : Type → Type} [Monad m] (answer : (request : Call) → m (Answer request)) :
    Program Call Answer α → m α
  | done value => pure value
  | call request continuation => do
    let value ← answer request
    (continuation value).answeredBy answer

structure Event (Call : Type) (Answer : Call → Type) where
  call : Call
  answer : Answer call

/-- Surroundings: how each call is answered after the calls before it, the last of which comes
first. -/
abbrev Surroundings (Call : Type) (Answer : Call → Type) :=
  List (Event Call Answer) → (request : Call) → Answer request

/-- Runs a program after some calls, and gives its value and all calls then made, the last first. -/
def runAfter (surroundings : Surroundings Call Answer) (past : List (Event Call Answer)) :
    Program Call Answer α → α × List (Event Call Answer)
  | done value => (value, past)
  | call request continuation =>
    let answer := surroundings past request
    (continuation answer).runAfter surroundings (⟨request, answer⟩ :: past)

def runIn (surroundings : Surroundings Call Answer) (program : Program Call Answer α) :
    α × List (Event Call Answer) :=
  let (value, past) := program.runAfter surroundings []
  (value, past.reverse)

end Program

end Chatflow
