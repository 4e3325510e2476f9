import Chatflow.Proofs.Program.History
import Mathlib.Data.List.Forall2

/-!
# Programs that go alike

Two programs go alike if they make related calls as long as they get related answers, and then end
with related values.  Surroundings that give related answers to related calls take both through
related histories.
-/

namespace Chatflow.Program

open List (Forall₂)

variable {Call : Type} {Answer : Call → Type} {α β γ δ : Type}
  {calls : Call → Call → Prop} {events : Event Call Answer → Event Call Answer → Prop}

inductive GoAlike (calls : Call → Call → Prop)
    (events : Event Call Answer → Event Call Answer → Prop) (values : α → β → Prop) :
    Program Call Answer α → Program Call Answer β → Prop
  | done {value : α} {other : β} (related : values value other) :
      GoAlike calls events values (done value) (done other)
  | call {request other : Call} {next : Answer request → Program Call Answer α}
      {onward : Answer other → Program Call Answer β} (related : calls request other)
      (rest : ∀ answer given, events ⟨request, answer⟩ ⟨other, given⟩ →
        GoAlike calls events values (next answer) (onward given)) :
      GoAlike calls events values (call request next) (call other onward)

theorem goAlike_ask {request other : Call} (related : calls request other) :
    GoAlike calls events (fun answer given => events ⟨request, answer⟩ ⟨other, given⟩)
      (ask request) (ask other) :=
  .call related fun _ _ answered => .done answered

theorem GoAlike.bind {values : α → β → Prop} {results : γ → δ → Prop}
    {first : Program Call Answer α} {second : Program Call Answer β}
    {next : α → Program Call Answer γ} {onward : β → Program Call Answer δ}
    (alike : GoAlike calls events values first second)
    (rest : ∀ value other, values value other →
      GoAlike calls events results (next value) (onward other)) :
    GoAlike calls events results (first >>= next) (second >>= onward) := by
  induction alike with
  | done related => exact rest _ _ related
  | call related _ ih => exact .call related ih

/-- Related calls after related histories get related answers. -/
def Surroundings.AnswerAlike (calls : Call → Call → Prop)
    (events : Event Call Answer → Event Call Answer → Prop)
    (first second : Surroundings Call Answer) : Prop :=
  ∀ past other, Forall₂ events past other → ∀ request asked, calls request asked →
    events ⟨request, first past request⟩ ⟨asked, second other asked⟩

variable {values : α → β → Prop} {first : Program Call Answer α} {second : Program Call Answer β}
  {here there : Surroundings Call Answer}

theorem GoAlike.runAfter (alike : GoAlike calls events values first second)
    (answers : Surroundings.AnswerAlike calls events here there)
    {past other : List (Event Call Answer)} (pasts : Forall₂ events past other) :
    values (first.runAfter here past).1 (second.runAfter there other).1 ∧
      Forall₂ events (first.runAfter here past).2 (second.runAfter there other).2 := by
  induction alike generalizing past other with
  | done related => exact ⟨related, pasts⟩
  | call related _ ih =>
      have answered := answers past other pasts _ _ related
      exact ih _ _ answered (.cons answered pasts)

theorem GoAlike.runIn (alike : GoAlike calls events values first second)
    (answers : Surroundings.AnswerAlike calls events here there) :
    values (first.runIn here).1 (second.runIn there).1 ∧
      Forall₂ events (first.runIn here).2 (second.runIn there).2 := by
  obtain ⟨related, histories⟩ := alike.runAfter answers .nil
  exact ⟨related, List.rel_reverse histories⟩

end Chatflow.Program
