import Chatflow.Condition
import Chatflow.Proofs.Setting
import Chatflow.Proofs.Text.Sigma
import Chatflow.Trigger

/-!
# Literal occurrences

A message rule that asks for a part and a condition with a keyword put the text and what they look
for into lower case separately.  So they find what is written in the text letter by letter, if and
only if that settles the forms of its capital sigmas.
-/

namespace Chatflow

open Json (Fields)
open Text

/-- Message triggers that ask for the pattern as a part accept every typed text in which it is
written. -/
def Trigger.FindsWritten (pattern : String) : Prop :=
  ∀ (config : Fields) (text : String), config.Says "pattern" pattern →
    config.Says "matchType" "contains" → pattern.toList <:+: text.toList →
    (message (.ofConfig config)).accepts text false = true

/-- Keyword conditions with the keyword in their list are true on every text in which it is
written. -/
def Condition.FindsWritten (word : String) : Prop :=
  ∀ (label : String) (config : Fields) (list text : String),
    "Keyword".toList <:+: label.toList → config.get? "keywords" = some (.string list) →
    word ∈ (split list ',').map trim → word.toList <:+: text.toList →
    (ofConfig label config).evaluate text = .evaluated true

variable {config : Fields} {label list pattern word text : String}

theorem contains_lower_iff (text piece : String) :
    contains (lower text) (lower piece) = true ↔
      lowerChars piece.toList <:+: lowerChars text.toList := by
  rw [contains, occurs_iff, toList_lower, toList_lower]

theorem contains_lower_of_infix_iff (piece : String) :
    (∀ text : String, piece.toList <:+: text.toList → contains (lower text) (lower piece) = true) ↔
      SettlesSigmas piece := by
  rw [SettlesSigmas, ← lowerChars_infix_iff]
  constructor
  · intro found text occurs
    simpa only [contains_lower_iff, String.toList_ofList] using
      found (String.ofList text) (by rwa [String.toList_ofList])
  · intro found text occurs
    exact (contains_lower_iff text piece).mpr (found text.toList occurs)

/-! ## Message triggers -/

theorem Trigger.accepts_contains (given : config.Says "pattern" pattern)
    (kind : config.Says "matchType" "contains") :
    (message (.ofConfig config)).accepts text false = contains (lower text) (lower pattern) := by
  simp [accepts, MessageRule.ofConfig, textSetting?_eq_some_iff.mpr given,
    textSetting?_eq_some_iff.mpr kind, MessageRule.accepts]

theorem Trigger.findsWritten_iff (filled : pattern ≠ "") :
    FindsWritten pattern ↔ SettlesSigmas pattern := by
  rw [← contains_lower_of_infix_iff]
  constructor
  · intro finds text occurs
    let config : Fields := [("matchType", .string "contains"), ("pattern", .string pattern)]
    have given : config.Says "pattern" pattern := ⟨rfl, filled⟩
    have kind : config.Says "matchType" "contains" := ⟨rfl, by decide⟩
    rw [← accepts_contains given kind]
    exact finds config text given kind occurs
  · intro found config text given kind occurs
    rw [accepts_contains given kind]
    exact found text occurs

/-! ## Conditions -/

theorem Condition.evaluate_keywords (named : "Keyword".toList <:+: label.toList)
    (given : config.get? "keywords" = some (.string list)) :
    (ofConfig label config).evaluate text =
      .evaluated ((split list ',').any fun word => contains (lower text) (lower (trim word))) := by
  have called : contains label "Keyword" = true := (occurs_iff _ _).mpr named
  rw [ofConfig, if_pos called, given, evaluate, Option.bind_some, Json.string?, Option.getD_some,
    keywordsOf, List.any_map, Function.comp_def]

theorem Condition.findsWritten_iff (single : ',' ∉ word.toList) (bare : trim word = word) :
    FindsWritten word ↔ SettlesSigmas word := by
  rw [← contains_lower_of_infix_iff]
  constructor
  · intro finds text occurs
    let config : Fields := [("keywords", .string word)]
    have given : config.get? "keywords" = some (.string word) := rfl
    have alone : split word ',' = [word] := by
      rw [split, splitChars_of_not_mem single, List.map_singleton, String.ofList_toList]
    have named : "Keyword".toList <:+: "Keyword".toList := List.infix_refl _
    have listed : word ∈ (split word ',').map trim := by simp [alone, bare]
    have found := finds "Keyword" config word text named given listed occurs
    rw [evaluate_keywords named given, alone] at found
    simpa [bare] using found
  · intro found label config list text named given listed occurs
    obtain ⟨entry, member, rfl⟩ := List.mem_map.mp listed
    have listed : ((split list ',').any fun word => contains (lower text) (lower (trim word))) = true :=
      List.any_eq_true.mpr ⟨entry, member, found text occurs⟩
    rw [evaluate_keywords named given, listed]

/-! ## What is found -/

/-- What is written in a text is found, by triggers that ask for it as a part and by conditions
that list it as a keyword, if and only if it settles the forms of its capital sigmas. -/
theorem written_is_found_iff (piece : String) (filled : piece ≠ "") :
    (Trigger.FindsWritten piece ↔ SettlesSigmas piece) ∧
      (',' ∉ piece.toList → trim piece = piece →
        (Condition.FindsWritten piece ↔ SettlesSigmas piece)) :=
  ⟨Trigger.findsWritten_iff filled, Condition.findsWritten_iff⟩

theorem written_is_found_iff_inside :
    Trigger.FindsWritten "ΣΟΦΟΣ!" ∧ Condition.FindsWritten "ΣΟΦΟΣ!" := by
  have settles : SettlesSigmas "ΣΟΦΟΣ!" := by decide +kernel
  obtain ⟨trigger, condition⟩ := written_is_found_iff "ΣΟΦΟΣ!" (by decide)
  exact ⟨trigger.mpr settles, (condition (by decide) (by decide +kernel)).mpr settles⟩

/-- A sigma at the end of a piece has another form when a letter follows. -/
theorem written_sigma_is_missed :
    ("ΑΣ" ≠ "" ∧ ¬ Trigger.FindsWritten "ΑΣ") ∧
      ',' ∉ "ΑΣ".toList ∧ trim "ΑΣ" = "ΑΣ" ∧ ¬ Condition.FindsWritten "ΑΣ" := by
  let config : Fields :=
    [("keywords", .string "ΑΣ"), ("matchType", .string "contains"), ("pattern", .string "ΑΣ")]
  have occurs : "ΑΣ".toList <:+: "ΑΣΑ".toList := ⟨[], ['Α'], rfl⟩
  have refused : (Trigger.message (.ofConfig config)).accepts "ΑΣΑ" false = false := by
    decide +kernel
  have untrue : (Condition.ofConfig "Keyword" config).evaluate "ΑΣΑ" = .evaluated false := by
    decide +kernel
  refine ⟨⟨by decide, fun finds => ?_⟩, by decide, by decide +kernel, fun finds => ?_⟩
  · have accepted := finds config "ΑΣΑ" ⟨rfl, by decide⟩ ⟨rfl, by decide⟩ occurs
    exact absurd (refused.symm.trans accepted) (by decide)
  · have found := finds "Keyword" config "ΑΣ" "ΑΣΑ" (List.infix_refl _) rfl (by decide +kernel) occurs
    exact absurd (untrue.symm.trans found) (by decide)

end Chatflow
