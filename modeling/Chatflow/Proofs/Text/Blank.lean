import Chatflow.Text.Blank
import Mathlib.Data.List.TakeWhile

/-!
# Trimming

What trimming keeps stands between blanks and neither starts nor ends with one, and what stands so
in a text is what trimming keeps.
-/

namespace Chatflow.Text

/-- The text has blanks only. -/
def AllBlank (cs : List Char) : Prop := ∀ c ∈ cs, isBlank c = true

instance (cs : List Char) : Decidable (AllBlank cs) :=
  decidable_of_iff (cs.all isBlank = true) List.all_eq_true

/-- The text neither starts nor ends with a blank. -/
structure Trimmed (cs : List Char) : Prop where
  first : ∀ c ∈ cs.head?, isBlank c = false
  last : ∀ c ∈ cs.getLast?, isBlank c = false

theorem AllBlank.append {left right : List Char} (hleft : AllBlank left)
    (hright : AllBlank right) : AllBlank (left ++ right) :=
  List.forall_mem_append.mpr ⟨hleft, hright⟩

theorem AllBlank.reverse {cs : List Char} (blank : AllBlank cs) : AllBlank cs.reverse :=
  fun c member => blank c (List.mem_reverse.mp member)

theorem trimRight_eq (cs : List Char) : trimRight cs = (trimLeft cs.reverse).reverse := rfl

theorem exists_trimRight (cs : List Char) :
    ∃ blanks, cs = trimRight cs ++ blanks ∧ AllBlank blanks ∧
      ∀ c ∈ (trimRight cs).getLast?, isBlank c = false := by
  obtain ⟨blanks, split, blank, first⟩ := exists_trimLeft cs.reverse
  refine ⟨blanks.reverse, ?_, AllBlank.reverse blank, ?_⟩
  · rw [trimRight_eq, ← List.reverse_append, ← split, List.reverse_reverse]
  · rwa [trimRight_eq, List.getLast?_reverse]

theorem head?_trimRight {cs : List Char} {c : Char} (h : c ∈ (trimRight cs).head?) :
    c ∈ cs.head? := by
  obtain ⟨blanks, split, -⟩ := exists_trimRight cs
  rw [split, List.head?_append, h, Option.some_or]
  rfl

/-- Trimming keeps what stands between the blanks at both ends. -/
theorem exists_trimChars (cs : List Char) :
    ∃ left right, cs = left ++ trimChars cs ++ right ∧ AllBlank left ∧ AllBlank right ∧
      Trimmed (trimChars cs) := by
  obtain ⟨left, atLeft, leftBlank, first⟩ := exists_trimLeft cs
  obtain ⟨right, atRight, rightBlank, last⟩ := exists_trimRight (trimLeft cs)
  refine ⟨left, right, ?_, leftBlank, rightBlank, fun c h => first c (head?_trimRight h), last⟩
  rw [List.append_assoc, trimChars, ← atRight, ← atLeft]

theorem trimLeft_append {blanks : List Char} (blank : AllBlank blanks) (cs : List Char) :
    trimLeft (blanks ++ cs) = trimLeft cs :=
  List.dropWhile_append_of_pos blank

theorem trimLeft_of_first {cs : List Char} (first : ∀ c ∈ cs.head?, isBlank c = false) :
    trimLeft cs = cs := by
  cases cs with
  | nil => rfl
  | cons c rest => exact trimLeft_eq_self (first c rfl)

/-- What stands between blanks and neither starts nor ends with one is what trimming keeps. -/
theorem Trimmed.trimChars_between {core left right : List Char} (trimmed : Trimmed core)
    (leftBlank : AllBlank left) (rightBlank : AllBlank right) :
    trimChars (left ++ core ++ right) = core := by
  rw [List.append_assoc, trimChars, trimLeft_append leftBlank]
  cases core with
  | nil =>
      have nothing : trimLeft right = [] := List.dropWhile_eq_nil_iff.mpr rightBlank
      rw [List.nil_append, nothing]
      rfl
  | cons c rest =>
      have last : ∀ d ∈ (c :: rest).reverse.head?, isBlank d = false := by
        simpa only [List.head?_reverse] using trimmed.last
      rw [List.cons_append, trimLeft_eq_self (trimmed.first c rfl), ← List.cons_append,
        trimRight_eq, List.reverse_append, trimLeft_append rightBlank.reverse,
        trimLeft_of_first last, List.reverse_reverse]

/-- Blanks around a text do not change what trimming keeps of it. -/
theorem trimChars_between {left right : List Char} (leftBlank : AllBlank left)
    (rightBlank : AllBlank right) (cs : List Char) :
    trimChars (left ++ cs ++ right) = trimChars cs := by
  obtain ⟨before, after, split, beforeBlank, afterBlank, trimmed⟩ := exists_trimChars cs
  have whole : left ++ cs ++ right = (left ++ before) ++ trimChars cs ++ (after ++ right) := by
    rw [split, trimmed.trimChars_between beforeBlank afterBlank]
    simp only [List.append_assoc]
  rw [whole, trimmed.trimChars_between (leftBlank.append beforeBlank)
    (afterBlank.append rightBlank)]

theorem toList_trim (text : String) : (trim text).toList = trimChars text.toList := by
  simp [trim]

theorem trim_between {left right : String} (leftBlank : AllBlank left.toList)
    (rightBlank : AllBlank right.toList) (text : String) :
    trim (left ++ text ++ right) = trim text := by
  rw [trim, String.toList_append, String.toList_append, trimChars_between leftBlank rightBlank, trim]

end Chatflow.Text
