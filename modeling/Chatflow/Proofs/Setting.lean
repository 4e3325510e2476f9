import Chatflow.Setting
import Mathlib.Data.Option.Basic

/-!
# What settings say

A setting says a text, or it is silent: what a config has for its key is absent, empty or not a
text.
-/

namespace Chatflow

open Json (Fields)

/-- The config has a text for the key, and not the empty one. -/
def Json.Fields.Says (config : Fields) (key text : String) : Prop :=
  config.get? key = some (.string text) ∧ text ≠ ""

/-- What the config has for the key is absent, empty or not a text. -/
def Json.Fields.IsSilent (config : Fields) (key : String) : Prop :=
  ∀ text, ¬ config.Says key text

theorem textSetting?_eq_some_iff {config : Fields} {key text : String} :
    textSetting? config key = some text ↔ config.Says key text := by
  have string_iff (json : Json) : json.string? = some text ↔ json = .string text := by
    cases json <;> simp [Json.string?]
  rw [textSetting?, Option.filter_eq_some_iff, Option.bind_eq_some_iff, Fields.Says]
  simp only [string_iff, exists_eq_right, Bool.not_eq_true', String.isEmpty_eq_false_iff]

theorem textSetting?_eq_none_iff {config : Fields} {key : String} :
    textSetting? config key = none ↔ config.IsSilent key := by
  rw [Option.eq_none_iff_forall_ne_some]
  exact forall_congr' fun text => not_congr textSetting?_eq_some_iff

namespace Json.Fields.Says

variable {config : Fields} {key text other : String}

theorem eq (said : config.Says key text) (again : config.Says key other) : text = other := by
  cases said.1.symm.trans again.1
  rfl

theorem says_iff (said : config.Says key text) : config.Says key other ↔ text = other := by
  refine ⟨said.eq, ?_⟩
  rintro rfl
  exact said

theorem not_isSilent (said : config.Says key text) : ¬ config.IsSilent key :=
  fun silent => silent text said

end Json.Fields.Says

end Chatflow
