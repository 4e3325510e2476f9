import Chatflow.Agent
import Chatflow.Proofs.Prompt
import Mathlib.Data.List.Permutation

/-!
# Texts of the chat in prompts

An agent fills what the user said and the name of the user into its prompts, in either order.  Both
are inserted as they are unless the one starts the placeholder of the other.
-/

namespace Chatflow.Agent

open Json Prompt

variable {order : VariableOrder} {context : RunContext}

theorem braceFree_last_message : BraceFree "last_message" := by decide

theorem braceFree_user_name : BraceFree "user_name" := by decide

theorem promptVariables_nodup (order : VariableOrder) (context : RunContext) :
    ((promptVariables order context).map Prod.fst).Nodup := by
  cases order <;> simp [promptVariables]

/-- The variables come in all orders in which they can come. -/
theorem perm_promptVariables_iff {values : Variables} :
    values.Perm (promptVariables order context) ↔
      ∃ other, values = promptVariables other context := by
  constructor
  · intro rearranged
    cases order with
    | textFirst =>
        rcases List.perm_pair.mp rearranged with rfl | rfl
        · exact ⟨.textFirst, rfl⟩
        · exact ⟨.nameFirst, rfl⟩
    | nameFirst =>
        rcases List.perm_pair.mp rearranged with rfl | rfl
        · exact ⟨.nameFirst, rfl⟩
        · exact ⟨.textFirst, rfl⟩
  · rintro ⟨other, rfl⟩
    cases order <;> cases other <;> simp [promptVariables, List.Perm.swap]

/-- Whatever the author wrote, one and the same request is made in each order of the variables, and
it holds what the user said and the name of the user where their placeholders stood. -/
def InsertsVerbatim (context : RunContext) : Prop :=
  ∀ (agent : Agent) (apiKey : String) (system user : List Part),
    agent.apiKey = some apiKey → agent.systemPrompt = ⟨written system⟩ →
    agent.userPrompt = ⟨written user⟩ →
    (∀ order, AreSoundFor (promptVariables order context) system) →
    (∀ order, AreSoundFor (promptVariables order context) user) →
    ∃ request, ∀ order, agent.request order context = .ok request ∧
      request.system = written (system.map (Part.filled (promptVariables order context))) ∧
      request.user = written (user.map (Part.filled (promptVariables order context)))

theorem insertsVerbatim_iff_showsAsIs :
    InsertsVerbatim context ↔ ∀ order, ShowsAsIs (promptVariables order context) := by
  constructor
  · intro inserts order parts sound
    let agent : Agent :=
      { provider := .openai, apiKey := some "", model := none,
        systemPrompt := ⟨written parts⟩, userPrompt := ⟨written []⟩ }
    have soundToo (other : VariableOrder) : AreSoundFor (promptVariables other context) parts :=
      fun part member entry among => sound part member entry
        ((perm_promptVariables_iff.mpr ⟨other, rfl⟩).mem_iff.mp among)
    obtain ⟨request, made⟩ :=
      inserts agent "" parts [] rfl rfl rfl soundToo fun _ => List.forall_mem_nil _
    obtain ⟨same, system, -⟩ := made order
    cases same
    exact system
  · intro shows agent apiKey system user keyed systemWritten userWritten systemSound userSound
    let values := promptVariables .textFirst context
    have filled (order : VariableOrder) :
        Part.filled (promptVariables order context) = Part.filled values :=
      Part.filled_of_perm (promptVariables_nodup _ _) (perm_promptVariables_iff.mpr ⟨order, rfl⟩)
    refine ⟨{
      provider := agent.provider
      apiKey
      model := agent.model
      system := written (system.map (Part.filled values))
      user := written (user.map (Part.filled values)) }, fun order => ?_⟩
    rw [filled order, request, keyed, systemWritten, userWritten]
    simp only [shows order system (systemSound order), shows order user (userSound order), filled,
      and_self]

theorem inserts_verbatim_iff (context : RunContext) :
    InsertsVerbatim context ↔
      (StartsNo "user_name" context.userText ∨
        context.userName.getD "" = placeholder "user_name") ∧
      (StartsNo "last_message" (context.userName.getD "") ∨
        context.userText = placeholder "last_message") := by
  rw [insertsVerbatim_iff_showsAsIs,
    ← showsAsIs_pair_iff braceFree_last_message braceFree_user_name,
    ← showsAsIs_pair_iff braceFree_user_name braceFree_last_message]
  constructor
  · exact fun shows => ⟨shows .textFirst, shows .nameFirst⟩
  · rintro ⟨textFirst, nameFirst⟩ order
    cases order with
    | textFirst => exact textFirst
    | nameFirst => exact nameFirst

/-- A text and a name that mention each other's placeholder are filled in again once they are
inserted: both orders show four values where the two values as they are would be three each.  Of a
text that mentions the name alone, each order makes something else. -/
theorem inserted_text_is_filled_in :
    let both := placeholder "last_message" ++ placeholder "user_name"
    let agent := ofConfig [("apiKey", .string "k"), ("userMessage", .string both)]
    let hostile : RunContext := {
      chat := 1
      userText := both ++ placeholder "last_message"
      userName := some (placeholder "user_name" ++ both) }
    let curious : RunContext :=
      { chat := 1, userText := placeholder "user_name", userName := some "Ada" }
    (∀ order, ∃ request, agent.request order hostile = .ok request ∧
      request.user = both ++ both ++ both ++ both) ∧
    ¬ InsertsVerbatim hostile ∧
    (∃ request, agent.request .textFirst curious = .ok request ∧ request.user = "AdaAda") ∧
    (∃ request, agent.request .nameFirst curious = .ok request ∧
      request.user = placeholder "user_name" ++ "Ada") ∧
    ¬ InsertsVerbatim curious := by
  intro both agent hostile curious
  have authored : agent.userPrompt =
      ⟨written [.placeholder "last_message", .placeholder "user_name"]⟩ := by decide +kernel
  have unspoken : agent.systemPrompt = ⟨written []⟩ := by decide +kernel
  have sound (context : RunContext) (order : VariableOrder) :
      AreSoundFor (promptVariables order context)
        [.placeholder "last_message", .placeholder "user_name"] := by
    cases order <;> simp [AreSoundFor, Part.IsSoundFor, promptVariables, braceFree_last_message,
      braceFree_user_name]
  have inserted (context : RunContext) (inserts : InsertsVerbatim context) :=
    inserts agent "k" [] _ (by decide +kernel) unspoken authored
      (fun _ => List.forall_mem_nil _) (sound context)
  have hostileShown (order : VariableOrder) :
      agent.userPrompt.render (promptVariables order hostile) = both ++ both ++ both ++ both := by
    cases order <;> decide +kernel
  have curiousShown : agent.userPrompt.render (promptVariables .textFirst curious) = "AdaAda" := by
    decide +kernel
  have curiousReversed : agent.userPrompt.render (promptVariables .nameFirst curious) =
      placeholder "user_name" ++ "Ada" := by decide +kernel
  refine ⟨fun order => ⟨_, rfl, hostileShown order⟩, fun inserts => ?_, ⟨_, rfl, curiousShown⟩,
    ⟨_, rfl, curiousReversed⟩, fun inserts => ?_⟩
  · obtain ⟨request, made⟩ := inserted hostile inserts
    obtain ⟨same, -, user⟩ := made .textFirst
    cases same
    exact absurd (user.symm.trans (hostileShown .textFirst)) (by decide +kernel)
  · obtain ⟨request, made⟩ := inserted curious inserts
    obtain ⟨textFirst, -, -⟩ := made .textFirst
    obtain ⟨nameFirst, -, -⟩ := made .nameFirst
    cases textFirst
    have user := congrArg GenerationRequest.user (Except.ok.inj nameFirst)
    exact absurd (curiousShown.symm.trans (user.symm.trans curiousReversed)) (by decide +kernel)

end Chatflow.Agent
