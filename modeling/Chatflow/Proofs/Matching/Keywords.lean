import Chatflow.Proofs.Matching.Literal
import Chatflow.Proofs.Text.Blank

/-!
# Lists of keywords

A condition holds if one of its keywords does, so a list of keywords says neither more nor less than
its entries do one by one.
-/

namespace Chatflow

open Json (Fields)
open Text

/-! ## Lists of entries -/

/-- A verdict on lists that are written with commas is reached entry by entry.  Blanks around an
entry do not count, and an entry of blanks is always good. -/
structure IsDisjunctive (verdict : String → Bool) : Prop where
  joined : ∀ first second, verdict (first ++ "," ++ second) = (verdict first || verdict second)
  grouped : ∀ lists, lists ≠ [] → verdict (",".intercalate lists) = lists.any verdict
  moreEntries : ∀ first second, (split first ',').map trim ⊆ (split second ',').map trim →
    verdict first = true → verdict second = true
  sameEntries : ∀ first second,
    (∀ word, word ∈ (split first ',').map trim ↔ word ∈ (split second ',').map trim) →
    verdict first = verdict second
  padded : ∀ (before after : List String) (left entry right : String),
    AllBlank left.toList → ',' ∉ entry.toList → AllBlank right.toList →
    verdict (",".intercalate (before ++ (left ++ entry ++ right) :: after)) =
      verdict (",".intercalate (before ++ entry :: after))
  blankEntry : ∀ list, (∃ entry ∈ split list ',', AllBlank entry.toList) → verdict list = true
  empty : verdict "" = true
  leading : ∀ list, verdict ("," ++ list) = true
  trailing : ∀ list, verdict (list ++ ",") = true
  doubled : ∀ first second, verdict (first ++ ",," ++ second) = true

theorem split_joined (first second : String) :
    split (first ++ "," ++ second) ',' = split first ',' ++ split second ',' := by
  have parts := splitChars_append ',' first.toList second.toList
  simp [split, String.toList_append, parts]

theorem split_of_not_mem {entry : String} (single : ',' ∉ entry.toList) :
    split entry ',' = [entry] := by
  rw [split, splitChars_of_not_mem single, List.map_singleton, String.ofList_toList]

theorem trim_of_allBlank {text : String} (blank : AllBlank text.toList) : trim text = "" := by
  have nothing : AllBlank "".toList := by simp [AllBlank]
  have trimmed := trim_between blank nothing ""
  rw [String.append_empty, String.append_empty] at trimmed
  rw [trimmed]
  rfl

theorem not_mem_of_allBlank {cs : List Char} (blank : AllBlank cs) : ',' ∉ cs := fun member =>
  absurd (blank ',' member) (by decide)

section

variable {verdict found : String → Bool}
  (each : ∀ list, verdict list = ((split list ',').map trim).any found) (free : found "" = true)
include each

theorem grouped_of_each (lists : List String) (some_list : lists ≠ []) :
    verdict (",".intercalate lists) = lists.any verdict := by
  induction lists with
  | nil => contradiction
  | cons first lists ih =>
      cases lists with
      | nil => simp
      | cons second lists =>
          rw [String.intercalate_cons_cons, each, split_joined, List.map_append, List.any_append,
            ← each, ← each, ih (List.cons_ne_nil _ _), List.any_cons (a := first)]

include free

theorem verdict_of_blankEntry {list entry : String} (listed : entry ∈ split list ',')
    (blank : AllBlank entry.toList) : verdict list = true := by
  rw [each, List.any_eq_true]
  exact ⟨"", List.mem_map.mpr ⟨entry, listed, trim_of_allBlank blank⟩, free⟩

theorem isDisjunctive_of_each : IsDisjunctive verdict := by
  have joined (first second : String) :
      verdict (first ++ "," ++ second) = (verdict first || verdict second) := by
    rw [each, split_joined, List.map_append, List.any_append, ← each, ← each]
  have moreEntries (first second : String)
      (fewer : (split first ',').map trim ⊆ (split second ',').map trim)
      (holds : verdict first = true) : verdict second = true := by
    rw [each, List.any_eq_true] at holds ⊢
    obtain ⟨word, listed, good⟩ := holds
    exact ⟨word, fewer listed, good⟩
  have nothing : AllBlank "".toList := by simp [AllBlank]
  have empty : verdict "" = true := verdict_of_blankEntry each free (by decide) nothing
  refine ⟨joined, grouped_of_each each, moreEntries, ?_, ?_, ?_, empty, ?_, ?_, ?_⟩
  · intro first second same
    rw [Bool.eq_iff_iff]
    exact ⟨moreEntries _ _ fun word => (same word).mp, moreEntries _ _ fun word => (same word).mpr⟩
  · intro before after left entry right leftBlank single rightBlank
    have alone : ',' ∉ (left ++ entry ++ right).toList := by
      simp [String.toList_append, single, not_mem_of_allBlank leftBlank,
        not_mem_of_allBlank rightBlank]
    have same : verdict (left ++ entry ++ right) = verdict entry := by
      rw [each, each, split_of_not_mem alone, split_of_not_mem single, List.map_singleton,
        List.map_singleton, trim_between leftBlank rightBlank]
    rw [grouped_of_each each _ (by simp), grouped_of_each each _ (by simp), List.any_append,
      List.any_append, List.any_cons, List.any_cons, same]
  · rintro list ⟨entry, listed, blank⟩
    exact verdict_of_blankEntry each free listed blank
  · intro list
    simpa [empty] using joined "" list
  · intro list
    simpa [empty] using joined list ""
  · intro first second
    have apart : first ++ ",," ++ second = first ++ "," ++ ("" ++ "," ++ second) := by
      rw [String.empty_append, show (",," : String) = "," ++ "," from rfl]
      simp only [String.append_assoc]
    rw [apart, joined, joined, empty, Bool.true_or, Bool.or_true]

end

/-! ## Conditions -/

/-- What the condition with the label and the list of keywords says about the text. -/
def Condition.verdict (label text list : String) : Bool :=
  ((ofConfig label [("keywords", .string list)]).evaluate text).branch

section

variable {label text list : String} {config : Fields}

theorem Condition.evaluate_listed (named : "Keyword".toList <:+: label.toList)
    (given : config.get? "keywords" = some (.string list)) :
    (ofConfig label config).evaluate text = .evaluated (verdict label text list) := by
  rw [verdict, evaluate_keywords named given, evaluate_keywords named rfl, ConditionOutcome.branch]

theorem Condition.verdict_eq_any (named : "Keyword".toList <:+: label.toList) (list : String) :
    verdict label text list =
      ((split list ',').map trim).any fun word => contains (lower text) (lower word) := by
  rw [verdict, evaluate_keywords named rfl, ConditionOutcome.branch, List.any_map]
  rfl

/-- Without a list a condition is like one with the empty list. -/
theorem Condition.ofConfig_unlisted
    (unlisted : ∀ list, config.get? "keywords" ≠ some (.string list)) :
    ofConfig label config = ofConfig label [("keywords", .string "")] := by
  have silent : (config.get? "keywords").bind Json.string? = none := by
    cases held : config.get? "keywords" with
    | none => rfl
    | some value =>
        cases value with
        | string list => exact absurd held (unlisted list)
        | _ => rfl
  rw [ofConfig, silent, ofConfig]
  rfl

/-- A condition judges its list of keywords entry by entry, and it is true of every text if there is
no list. -/
theorem keyword_lists_are_disjunctions (named : "Keyword".toList <:+: label.toList)
    (text : String) :
    IsDisjunctive (Condition.verdict label text) ∧
      (∀ (config : Fields) (list : String), config.get? "keywords" = some (.string list) →
        (Condition.ofConfig label config).evaluate text =
          .evaluated (Condition.verdict label text list)) ∧
      ∀ config : Fields, (∀ list, config.get? "keywords" ≠ some (.string list)) →
        (Condition.ofConfig label config).evaluate text = .evaluated true := by
  have disjunctive : IsDisjunctive (Condition.verdict label text) := by
    refine isDisjunctive_of_each (Condition.verdict_eq_any named) ?_
    rw [contains_lower_iff]
    exact List.nil_infix
  refine ⟨disjunctive, fun _ _ => Condition.evaluate_listed named, fun config unlisted => ?_⟩
  rw [Condition.ofConfig_unlisted unlisted, Condition.evaluate_listed named rfl, disjunctive.empty]

theorem keyword_lists_are_disjunctions_menu :
    let spaced : Fields := [("keywords", .string " Menu ,HELP,menu"), ("tone", .null)]
    let swapped : Fields := [("keywords", .string "help,menu")]
    let doubled : Fields := [("keywords", .string "help,,menu")]
    "Keyword".toList <:+: "Keyword Match".toList ∧
      (Condition.ofConfig "Keyword Match" spaced).evaluate "the menu" = .evaluated true ∧
      (Condition.ofConfig "Keyword Match" swapped).evaluate "nothing" = .evaluated false ∧
      (Condition.ofConfig "Keyword Match" doubled).evaluate "nothing" = .evaluated true := by
  intro spaced swapped doubled
  have named : "Keyword".toList <:+: "Keyword Match".toList := (occurs_iff _ _).mp (by decide)
  have menu := keyword_lists_are_disjunctions named "the menu"
  have nothing := keyword_lists_are_disjunctions named "nothing"
  have seen : Condition.verdict "Keyword Match" "the menu" "menu" = true := by decide +kernel
  have unseen : Condition.verdict "Keyword Match" "nothing" "help" = false ∧
      Condition.verdict "Keyword Match" "nothing" "menu" = false := by decide +kernel
  refine ⟨named, ?_, ?_, ?_⟩
  · rw [menu.2.1 spaced " Menu ,HELP,menu" rfl]
    have more := menu.1.joined " Menu ,HELP" "menu"
    rw [seen, Bool.or_true] at more
    exact congrArg _ more
  · rw [nothing.2.1 swapped "help,menu" rfl]
    have both := nothing.1.joined "help" "menu"
    rw [unseen.1, unseen.2] at both
    exact congrArg _ both
  · rw [nothing.2.1 doubled "help,,menu" rfl]
    exact congrArg _ (nothing.1.doubled "help" "menu")

end

end Chatflow
