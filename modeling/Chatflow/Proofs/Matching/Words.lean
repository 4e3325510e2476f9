import Chatflow.Proofs.Matching.Literal
import Chatflow.Proofs.Pattern.Words
import Mathlib.Data.List.Forall2

/-!
# Words as patterns and as parts

A message rule with a pattern searches the text itself, and one with a part compares lower cases.
On plain words and ASCII texts they agree: a pattern that lists words is as good as one rule for
each of them.
-/

namespace Chatflow

open Json (Fields)
open List (Forall₂)
open Pattern (IsPlainWord MeansSmall wordsPattern)
open Text

namespace Trigger

/-- The trigger is that of a node whose config has the pattern and says how to look for it. -/
def AsksFor (trigger : Trigger) (kind pattern : String) : Prop :=
  ∃ (label : String) (config : Fields), trigger = ofConfig label config ∧
    config.IsSilent "command" ∧ ¬ "Command".toList <:+: label.toList ∧
    "Message".toList <:+: label.toList ∧ config.Says "matchType" kind ∧
    config.Says "pattern" pattern

variable {trigger : Trigger} {kind pattern text : String} {isCallback : Bool}

theorem AsksFor.exists_config (asks : trigger.AsksFor kind pattern) :
    ∃ config : Fields, trigger = message (.ofConfig config) ∧ config.Says "matchType" kind ∧
      config.Says "pattern" pattern := by
  obtain ⟨label, config, rfl, silent, other, named, kind, pattern⟩ := asks
  have noCommand : contains label "Command" = false :=
    Bool.eq_false_iff.mpr (other ∘ (occurs_iff _ _).mp)
  have isMessage : contains label "Message" = true := (occurs_iff _ _).mpr named
  refine ⟨config, ?_, kind, pattern⟩
  simp [ofConfig, textSetting?_eq_none_iff.mpr silent, noCommand, isMessage]

theorem AsksFor.accepts_contains (asks : trigger.AsksFor "contains" pattern) :
    trigger.accepts text isCallback =
      (!isCallback && contains (lower text) (lower pattern)) := by
  obtain ⟨config, rfl, kind, given⟩ := asks.exists_config
  rw [← Trigger.accepts_contains given kind, accepts, accepts, Bool.not_false, Bool.true_and]

theorem AsksFor.accepts_regex (asks : trigger.AsksFor "regex" pattern) :
    trigger.accepts text isCallback =
      (!isCallback && (MessageRule.ofPattern pattern).accepts text) := by
  obtain ⟨config, rfl, kind, given⟩ := asks.exists_config
  simp [accepts, MessageRule.ofConfig, textSetting?_eq_some_iff.mpr given,
    textSetting?_eq_some_iff.mpr kind]

end Trigger

variable {words : List String} {text : String}

theorem contains_lower_of_ascii_iff {word : String} (plain : IsPlainWord word)
    (ascii : IsAscii text.toList) :
    contains (lower text) (lower word) = true ↔
      word.toList.map Char.toLower <:+: text.toList.map Char.toLower := by
  rw [contains_lower_iff, lowerChars_of_ascii plain.isAscii, lowerChars_of_ascii ascii]

theorem accepts_ofPattern_words {first : String} {others : List String}
    (plain : ∀ word ∈ first :: others, IsPlainWord word)
    (small : MeansSmall (MessageRule.caseless ("|".intercalate (first :: others))))
    (ascii : IsAscii text.toList) :
    (MessageRule.ofPattern ("|".intercalate (first :: others))).accepts text =
      (first :: others).any fun word => contains (lower text) (lower word) := by
  rw [MessageRule.caseless] at small
  rw [MessageRule.ofPattern, MessageRule.caseless, Pattern.ofText?_caseless plain small,
    Bool.eq_iff_iff, List.any_eq_true, MessageRule.accepts,
    Pattern.isFoundIn_wordsPattern_iff plain ascii]
  refine exists_congr fun word => and_congr_right fun member => ?_
  exact (contains_lower_of_ascii_iff (plain word member) ascii).symm

/-- Among ASCII texts a trigger with words as its pattern accepts what the triggers accept that ask
for one of the words each, if the pattern is not too large. -/
theorem regex_of_words_eq_any {searching : Trigger} {finding : List Trigger}
    (plain : ∀ word ∈ words, IsPlainWord word) (ascii : IsAscii text.toList)
    (small : MeansSmall (MessageRule.caseless ("|".intercalate words)))
    (asks : searching.AsksFor "regex" ("|".intercalate words))
    (each : Forall₂ (fun trigger word => trigger.AsksFor "contains" word) finding words)
    (isCallback : Bool) :
    searching.accepts text isCallback = finding.any (·.accepts text isCallback) := by
  have found : finding.any (·.accepts text isCallback) =
      (!isCallback && words.any fun word => contains (lower text) (lower word)) := by
    clear plain small asks
    induction each with
    | nil => simp
    | cons asks _ ih =>
        rw [List.any_cons, List.any_cons, asks.accepts_contains, ih, Bool.and_or_distrib_left]
  rw [found, asks.accepts_regex]
  cases words with
  | nil =>
      obtain ⟨_, -, -, -, filled⟩ := asks.exists_config
      exact absurd String.intercalate_nil filled
  | cons first others => rw [accepts_ofPattern_words plain small ascii]

namespace Pattern

theorem isWithinLimit_codes : isWithinLimit (wordsPattern "A1" ["B2"]) = true := by
  let digit (code : Nat) : Pattern := .chars (.runs [⟨code, code, 1⟩])
  let letter (code : Nat) : Pattern :=
    .chars (.runs [⟨code, code, 1⟩, ⟨code + 32, code + 32, 1⟩])
  have digitSpans (code : Nat) (ascii : code < 128) :
      (CharSet.runs [⟨code, code, 1⟩]).spans = [(code, code)] := by
    have apart : [code].Pairwise fun a b => a + 1 < b := by simp
    exact spans_of_apart apart (by simp; omega)
  have letterSpans (code : Nat) (ascii : code < 128) :
      (CharSet.runs [⟨code, code, 1⟩, ⟨code + 32, code + 32, 1⟩]).spans =
        [(code, code), (code + 32, code + 32)] := by
    have apart : [code, code + 32].Pairwise fun a b => a + 1 < b := by simp
    exact spans_of_apart apart (by simp; omega)
  have parts : wordsPattern "A1" ["B2"] =
      .orElse (.andThen .empty (.andThen (letter 65) (digit 49)))
        (.andThen (letter 66) (digit 50)) := by
    decide +kernel
  have size (backward : Bool) :
      automatonSize backward (wordsPattern "A1" ["B2"]) ≤ sizeLimit := by
    rw [parts]
    cases backward <;> simp +arith [digit, letter, digitSpans, letterSpans, automatonSize, extent,
      Extent.ofSet, Extent.andThen, Extent.orElse, Extent.ofSize, Extent.empty, CharSet.size,
      byteCount, stateSize, rangeSize, choiceSize, sizeLimit]
  rw [isWithinLimit, decide_eq_true (size false), decide_eq_true (size true)]
  rfl

end Pattern

/-- Two codes in a text that has one of them in small letters. -/
theorem regex_of_words_eq_any_codes :
    let trigger (kind pattern : String) : Trigger :=
      .ofConfig "Message" [("matchType", .string kind), ("pattern", .string pattern)]
    let text := "Take b2, please."
    (trigger "regex" "A1|B2").accepts text false =
        [trigger "contains" "A1", trigger "contains" "B2"].any (·.accepts text false) ∧
      (trigger "regex" "A1|B2").accepts text false = true := by
  intro trigger text
  have noCommand : ¬ "Command".toList <:+: "Message".toList := mt (occurs_iff _ _).mpr (by decide)
  have asks (kind pattern : String) (named : kind ≠ "") (filled : pattern ≠ "") :
      (trigger kind pattern).AsksFor kind pattern :=
    ⟨"Message", _, rfl, textSetting?_eq_none_iff.mp rfl, noCommand, List.infix_refl _,
      ⟨rfl, named⟩, rfl, filled⟩
  have plain : ∀ word ∈ ["A1", "B2"], IsPlainWord word := by decide +kernel
  have ascii : IsAscii text.toList := by decide +kernel
  have small : MeansSmall (MessageRule.caseless ("|".intercalate ["A1", "B2"])) := by
    intro expression pattern flags read means
    cases (Pattern.read?_caseless plain).symm.trans read
    cases (Pattern.meaning?_branchesOf "A1" ["B2"]).symm.trans means
    exact Pattern.isWithinLimit_codes
  have searching := asks "regex" "A1|B2" (by decide) (by decide)
  have finding : Forall₂ (fun trigger word => trigger.AsksFor "contains" word)
      [trigger "contains" "A1", trigger "contains" "B2"] ["A1", "B2"] :=
    .cons (asks _ _ (by decide) (by decide)) (.cons (asks _ _ (by decide) (by decide)) .nil)
  have same := regex_of_words_eq_any plain ascii small searching finding false
  refine ⟨same, same.trans ?_⟩
  decide +kernel

end Chatflow
