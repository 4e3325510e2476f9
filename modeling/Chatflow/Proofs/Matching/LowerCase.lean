import Chatflow.Condition
import Chatflow.Proofs.Text.LetterCase
import Chatflow.Trigger

/-!
# Case and blanks in what users say

Commands, message rules that compare texts and conditions judge a text as they judge its lower
case, and commands do not look at the blanks around it.
-/

namespace Chatflow

open Text

variable {left right text command : String} {isCallback : Bool}

/-! ## Commands -/

theorem Trigger.normalize_eq_trim_lower (text : String) : normalize text = trim (lower text) :=
  (trim_lower text).symm

theorem Trigger.normalize_between (leftBlank : AllBlank left.toList)
    (rightBlank : AllBlank right.toList) (text : String) :
    normalize (left ++ lower text ++ right) = normalize text := by
  rw [normalize, trim_between leftBlank rightBlank, trim_lower, lower_lower, normalize]

theorem Trigger.accepts_command_iff :
    (Trigger.command command).accepts text isCallback = true ↔
      normalize text = normalize command := by
  rw [accepts, beq_iff_eq]

/-! ## Verdicts -/

/-- A command is compared with a text when both are in lower case and trimmed, in either order.
Commands, message rules that compare texts and conditions have the same verdict on a text and on
its lower case, and commands also with blanks around it. -/
theorem verdicts_ignore_case_and_blanks (text : String) :
    (∀ command isCallback, (Trigger.command command).accepts text isCallback = true ↔
      trim (lower text) = trim (lower command)) ∧
    (∀ command isCallback left right, AllBlank left.toList → AllBlank right.toList →
      (Trigger.command command).accepts (left ++ lower text ++ right) isCallback =
        (Trigger.command command).accepts text isCallback) ∧
    (∀ expected, (MessageRule.exact expected).accepts (lower text) =
      (MessageRule.exact expected).accepts text) ∧
    (∀ part, (MessageRule.contains part).accepts (lower text) =
      (MessageRule.contains part).accepts text) ∧
    ∀ condition : Condition, condition.evaluate (lower text) = condition.evaluate text := by
  refine ⟨fun command isCallback => ?_, fun command isCallback left right leftBlank rightBlank => ?_,
    fun expected => ?_, fun part => ?_, fun condition => ?_⟩
  · rw [Trigger.accepts_command_iff, Trigger.normalize_eq_trim_lower,
      Trigger.normalize_eq_trim_lower]
  · rw [Trigger.accepts, Trigger.normalize_between leftBlank rightBlank, Trigger.accepts]
  · rw [MessageRule.accepts, lower_lower, MessageRule.accepts]
  · rw [MessageRule.accepts, lower_lower, MessageRule.accepts]
  · cases condition with
    | keyword keywords => rw [Condition.evaluate, lower_lower, Condition.evaluate]
    | unimplemented kind => rfl

theorem verdicts_ignore_case_and_blanks_sigma :
    AllBlank "\u3000".toList ∧ AllBlank "\n".toList ∧
      (Trigger.command "/ΟΔΟΣ ").accepts "\u3000/οδος\n" true =
        (Trigger.command "/ΟΔΟΣ ").accepts "/ΟΔΟΣ" true := by
  have leftBlank : AllBlank "\u3000".toList := by decide
  have rightBlank : AllBlank "\n".toList := by decide
  have spelled : "\u3000" ++ lower "/ΟΔΟΣ" ++ "\n" = "\u3000/οδος\n" := by decide +kernel
  refine ⟨leftBlank, rightBlank, ?_⟩
  rw [← spelled]
  exact (verdicts_ignore_case_and_blanks "/ΟΔΟΣ").2.1 _ _ _ _ leftBlank rightBlank

end Chatflow
