import Chatflow.Unicode.Run

/-!
# Blanks

A blank is a scalar value with the Unicode property `White_Space`.  Trimming removes the blanks at
both ends of a text and nothing else.
-/

namespace Chatflow.Text

open Chatflow.Unicode

def blankRuns : List Run :=
  [⟨0x9, 0xD, 1⟩, ⟨0x20, 0x20, 1⟩, ⟨0x85, 0x85, 1⟩, ⟨0xA0, 0xA0, 1⟩, ⟨0x1680, 0x1680, 1⟩,
   ⟨0x2000, 0x200A, 1⟩, ⟨0x2028, 0x2029, 1⟩, ⟨0x202F, 0x202F, 1⟩, ⟨0x205F, 0x205F, 1⟩,
   ⟨0x3000, 0x3000, 1⟩]

def isBlank (c : Char) : Bool := inRuns blankRuns c

def trimLeft (cs : List Char) : List Char := cs.dropWhile isBlank

def trimRight (cs : List Char) : List Char := (cs.reverse.dropWhile isBlank).reverse

def trimChars (cs : List Char) : List Char := trimRight (trimLeft cs)

/-- Removes the blanks at both ends. -/
def trim (text : String) : String := String.ofList (trimChars text.toList)

theorem trimLeft_eq_self {c : Char} {cs : List Char} (h : isBlank c = false) :
    trimLeft (c :: cs) = c :: cs := by
  simp [trimLeft, h]

/-- What trimming on the left removes is blank, and what it keeps does not start with a blank. -/
theorem exists_trimLeft (cs : List Char) :
    ∃ blanks, cs = blanks ++ trimLeft cs ∧ (∀ c ∈ blanks, isBlank c = true) ∧
      ∀ c ∈ (trimLeft cs).head?, isBlank c = false := by
  refine ⟨cs.takeWhile isBlank, (List.takeWhile_append_dropWhile).symm, ?_, ?_⟩
  · induction cs with
    | nil => simp
    | cons a as inductionHypothesis =>
      cases ha : isBlank a <;> simp_all
  · intro c hc
    have := List.head?_dropWhile_not isBlank cs
    simp only [trimLeft] at hc
    cases hd : List.dropWhile isBlank cs with
    | nil => simp [hd] at hc
    | cons x xs => simp_all

end Chatflow.Text
