import Chatflow.Program

/-!
# Histories of programs

A history lists calls in the order in which they were made, each with its answer.  A program runs
through a history if it makes exactly these calls when it gets these answers.  What a program does
in some surroundings is the one history that it runs through and that the surroundings answer, so
that statements about all surroundings are statements about histories.
-/

namespace Chatflow.Program

variable {Call : Type} {Answer : Call → Type} {α β : Type}

/-! ## Running through a history -/

/-- The program makes the calls of the history and, given their answers, ends with the value. -/
inductive Runs : Program Call Answer α → List (Event Call Answer) → α → Prop
  | done (value : α) : Runs (done value) [] value
  | call {request : Call} {continuation : Answer request → Program Call Answer α}
      {answer : Answer request} {history : List (Event Call Answer)} {value : α}
      (rest : Runs (continuation answer) history value) :
      Runs (call request continuation) (⟨request, answer⟩ :: history) value

@[simp] theorem runs_done_iff {value result : α} {history : List (Event Call Answer)} :
    Runs (done value) history result ↔ history = [] ∧ result = value := by
  constructor
  · intro runs
    cases runs
    exact ⟨rfl, rfl⟩
  · rintro ⟨rfl, rfl⟩
    exact .done result

@[simp] theorem runs_pure_iff {value result : α} {history : List (Event Call Answer)} :
    Runs (pure value : Program Call Answer α) history result ↔ history = [] ∧ result = value :=
  runs_done_iff

theorem runs_call_iff {request : Call} {continuation : Answer request → Program Call Answer α}
    {history : List (Event Call Answer)} {value : α} :
    Runs (call request continuation) history value ↔
      ∃ answer rest, history = ⟨request, answer⟩ :: rest ∧
        Runs (continuation answer) rest value := by
  constructor
  · intro runs
    cases runs with
    | call rest => exact ⟨_, _, rfl, rest⟩
  · rintro ⟨answer, rest, rfl, runs⟩
    exact .call runs

theorem runs_ask_iff {request : Call} {history : List (Event Call Answer)}
    {value : Answer request} :
    Runs (ask request) history value ↔ history = [⟨request, value⟩] := by
  rw [ask, runs_call_iff]
  simp only [runs_done_iff]
  constructor
  · rintro ⟨answer, rest, rfl, rfl, rfl⟩
    rfl
  · rintro rfl
    exact ⟨value, [], rfl, rfl, rfl⟩

theorem runs_bind_iff {program : Program Call Answer α} {next : α → Program Call Answer β}
    {history : List (Event Call Answer)} {result : β} :
    Runs (program >>= next) history result ↔
      ∃ first value second, history = first ++ second ∧ Runs program first value ∧
        Runs (next value) second result := by
  induction program generalizing history with
  | done value =>
      rw [done_bind]
      simp only [runs_done_iff]
      constructor
      · intro runs
        exact ⟨[], value, history, rfl, ⟨rfl, rfl⟩, runs⟩
      · rintro ⟨_, _, second, rfl, ⟨rfl, rfl⟩, runs⟩
        exact runs
  | call request continuation ih =>
      rw [call_bind]
      simp only [runs_call_iff, ih]
      constructor
      · rintro ⟨answer, _, rfl, first, value, second, rfl, runs, rest⟩
        exact ⟨_ :: first, value, second, rfl, ⟨answer, first, rfl, runs⟩, rest⟩
      · rintro ⟨_, value, second, rfl, ⟨answer, first, rfl, runs⟩, rest⟩
        exact ⟨answer, _, rfl, first, value, second, rfl, runs, rest⟩

/-! ## Surroundings -/

/-- The surroundings give the answers of the history to its calls, one after the other. -/
def Surroundings.Answers (surroundings : Surroundings Call Answer) :
    List (Event Call Answer) → List (Event Call Answer) → Prop
  | _, [] => True
  | past, event :: history =>
    surroundings past event.call = event.answer ∧ surroundings.Answers (event :: past) history

theorem Surroundings.answers_append_iff {surroundings : Surroundings Call Answer}
    {past first second : List (Event Call Answer)} :
    surroundings.Answers past (first ++ second) ↔
      surroundings.Answers past first ∧
        surroundings.Answers (first.reverse ++ past) second := by
  induction first generalizing past with
  | nil => simp [Surroundings.Answers]
  | cons event first ih =>
      simp only [List.cons_append, Surroundings.Answers, ih, List.reverse_cons, List.append_assoc,
        List.nil_append, and_assoc]

def Surroundings.replay (surroundings : Surroundings Call Answer) :
    List (Event Call Answer) → List (Event Call Answer) → List (Event Call Answer)
  | _, [] => []
  | past, event :: history =>
    let answered := ⟨event.call, surroundings past event.call⟩
    answered :: surroundings.replay (answered :: past) history

theorem Surroundings.answers_replay (surroundings : Surroundings Call Answer)
    (past history : List (Event Call Answer)) :
    surroundings.Answers past (surroundings.replay past history) := by
  induction history generalizing past with
  | nil => trivial
  | cons event history ih => exact ⟨rfl, ih _⟩

theorem runAfter_eq_iff {surroundings : Surroundings Call Answer}
    {past later : List (Event Call Answer)} {program : Program Call Answer α} {value : α} :
    program.runAfter surroundings past = (value, later) ↔
      ∃ history, later = history.reverse ++ past ∧ Runs program history value ∧
        surroundings.Answers past history := by
  induction program generalizing past with
  | done result =>
      simp only [runAfter, runs_done_iff, Prod.mk.injEq]
      constructor
      · rintro ⟨rfl, rfl⟩
        exact ⟨[], rfl, ⟨rfl, rfl⟩, trivial⟩
      · rintro ⟨_, rfl, ⟨rfl, rfl⟩, -⟩
        exact ⟨rfl, rfl⟩
  | call request continuation ih =>
      simp only [runAfter, ih, runs_call_iff]
      constructor
      · rintro ⟨history, rfl, runs, answers⟩
        refine ⟨⟨request, surroundings past request⟩ :: history, ?_, ⟨_, _, rfl, runs⟩, rfl,
          answers⟩
        simp
      · rintro ⟨_, rfl, ⟨answer, history, rfl, runs⟩, same, answers⟩
        change surroundings past request = answer at same
        subst same
        exact ⟨history, by simp, runs, answers⟩

/-- What a program does in some surroundings is what it does through the history that these
surroundings answer. -/
theorem runIn_eq_iff {surroundings : Surroundings Call Answer} {program : Program Call Answer α}
    {value : α} {history : List (Event Call Answer)} :
    program.runIn surroundings = (value, history) ↔
      Runs program history value ∧ surroundings.Answers [] history := by
  constructor
  · intro run
    have ran : program.runAfter surroundings [] = (value, history.reverse) := by
      simp only [runIn, Prod.mk.injEq] at run
      rw [← run.1, ← run.2, List.reverse_reverse]
    obtain ⟨calls, reversed, runs, answers⟩ := runAfter_eq_iff.mp ran
    rw [List.append_nil, List.reverse_inj] at reversed
    subst reversed
    exact ⟨runs, answers⟩
  · rintro ⟨runs, answers⟩
    have ran := runAfter_eq_iff.mpr ⟨history, rfl, runs, answers⟩
    simp [runIn, ran]

theorem runs_runIn (surroundings : Surroundings Call Answer) (program : Program Call Answer α) :
    Runs program (program.runIn surroundings).2 (program.runIn surroundings).1 :=
  (runIn_eq_iff.mp rfl).1

theorem answers_runIn (surroundings : Surroundings Call Answer)
    (program : Program Call Answer α) :
    surroundings.Answers [] (program.runIn surroundings).2 :=
  (runIn_eq_iff.mp rfl).2

/-! ## Going on after a history -/

theorem exists_runs_answers (surroundings : Surroundings Call Answer)
    (past : List (Event Call Answer)) (program : Program Call Answer α) :
    ∃ history value, Runs program history value ∧ surroundings.Answers past history := by
  have ran : program.runAfter surroundings past = (_, _) := rfl
  obtain ⟨history, -, runs, answers⟩ := runAfter_eq_iff.mp ran
  exact ⟨history, _, runs, answers⟩

theorem exists_runs_answers_of_prefix {surroundings : Surroundings Call Answer}
    {past before after : List (Event Call Answer)} {request : Call} {answer : Answer request}
    {program : Program Call Answer α} {value : α}
    (runs : Runs program (before ++ ⟨request, answer⟩ :: after) value)
    (answers : surroundings.Answers past before) :
    ∃ later result,
      Runs program
        (before ++ ⟨request, surroundings (before.reverse ++ past) request⟩ :: later) result ∧
      surroundings.Answers past
        (before ++ ⟨request, surroundings (before.reverse ++ past) request⟩ :: later) := by
  induction before generalizing program past with
  | nil =>
      cases runs with
      | @call _ continuation _ _ _ rest =>
          let given := surroundings past request
          obtain ⟨later, result, runsLater, answersLater⟩ :=
            exists_runs_answers surroundings (⟨request, given⟩ :: past) (continuation given)
          exact ⟨later, result, .call runsLater, rfl, answersLater⟩
  | cons event before ih =>
      obtain ⟨given, answers⟩ := answers
      have order : before.reverse ++ event :: past = (event :: before).reverse ++ past := by simp
      rw [← order]
      cases runs with
      | call rest =>
          obtain ⟨later, result, runsLater, answersLater⟩ := ih rest answers
          exact ⟨later, result, .call runsLater, given, answersLater⟩

/-- A program that has made a call after some others makes it in all surroundings that answered the
others in the same way. -/
theorem exists_runIn_eq_append {surroundings : Surroundings Call Answer}
    {before after : List (Event Call Answer)} {request : Call} {answer given : Answer request}
    {program : Program Call Answer α} {value : α}
    (runs : Runs program (before ++ ⟨request, answer⟩ :: after) value)
    (answers : surroundings.Answers [] (before ++ [⟨request, given⟩])) :
    ∃ later, (program.runIn surroundings).2 = before ++ ⟨request, given⟩ :: later := by
  obtain ⟨earlier, same, -⟩ := Surroundings.answers_append_iff.mp answers
  obtain ⟨later, result, runsLater, answersLater⟩ := exists_runs_answers_of_prefix runs earlier
  rw [show surroundings (before.reverse ++ []) request = given from same]
    at runsLater answersLater
  have ran := runIn_eq_iff.mpr ⟨runsLater, answersLater⟩
  exact ⟨later, congrArg Prod.snd ran⟩

/-! ## Partway through a history -/

/-- The program makes the calls of the history and, given their answers, goes on as the other. -/
inductive Leads : Program Call Answer α → List (Event Call Answer) → Program Call Answer α → Prop
  | here (program : Program Call Answer α) : Leads program [] program
  | call {request : Call} {continuation : Answer request → Program Call Answer α}
      {answer : Answer request} {history : List (Event Call Answer)}
      {program : Program Call Answer α} (rest : Leads (continuation answer) history program) :
      Leads (call request continuation) (⟨request, answer⟩ :: history) program

theorem Leads.snoc {program : Program Call Answer α} {history : List (Event Call Answer)}
    {request : Call} {continuation : Answer request → Program Call Answer α}
    (leads : Leads program history (Program.call request continuation)) (answer : Answer request) :
    Leads program (history ++ [⟨request, answer⟩]) (continuation answer) := by
  generalize reached : Program.call request continuation = last at leads
  induction leads with
  | here program =>
      subst reached
      exact .call (.here _)
  | call _ ih => exact .call (ih reached)

theorem Leads.runs {program : Program Call Answer α} {history : List (Event Call Answer)}
    {value : α} (leads : Leads program history (Program.done value)) : Runs program history value := by
  generalize reached : Program.done value = last at leads
  induction leads with
  | here program =>
      subst reached
      exact .done value
  | call _ ih => exact .call (ih reached)

theorem Leads.append_runs {program rest : Program Call Answer α}
    {history later : List (Event Call Answer)} {value : α} (leads : Leads program history rest)
    (runs : Runs rest later value) : Runs program (history ++ later) value := by
  induction leads with
  | here program => exact runs
  | call _ ih => exact .call (ih runs)

end Chatflow.Program
