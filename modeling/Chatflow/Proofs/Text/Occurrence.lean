import Chatflow.Text.Occurrence
import Mathlib.Data.List.Basic

/-!
# Replacing and splitting

A text in which no occurrence of a piece starts, whatever follows it, is passed over when the piece
is replaced.  In all other texts a replacement shows, if it is not the piece itself.  The pieces
between separators make up the text that was split.
-/

namespace Chatflow.Text

variable {piece replacement text : List Char}

/-! ## Texts that are passed over -/

/-- No occurrence of the piece starts in the text, whatever follows the text. -/
def startsNone (piece : List Char) : List Char → Bool
  | [] => true
  | c :: rest =>
    !piece.isPrefixOf (c :: rest) && !(c :: rest).isPrefixOf piece && startsNone piece rest

theorem startsNone_cons_iff {c : Char} {rest : List Char} :
    startsNone piece (c :: rest) = true ↔
      (¬ piece <+: c :: rest ∧ ¬ c :: rest <+: piece) ∧ startsNone piece rest = true := by
  simp only [startsNone, Bool.and_eq_true, Bool.not_eq_true', ← Bool.not_eq_true,
    List.isPrefixOf_iff_prefix]

theorem not_prefix_of_startsNone {c : Char} {rest : List Char}
    (none : startsNone piece (c :: rest) = true) (more : List Char) :
    ¬ piece <+: c :: rest ++ more := by
  obtain ⟨⟨whole, part⟩, -⟩ := startsNone_cons_iff.mp none
  intro occurs
  exact (List.prefix_or_prefix_of_prefix occurs (List.prefix_append (c :: rest) more)).elim whole part

theorem replaceChars_append_of_startsNone (none : startsNone piece text = true)
    (replacement rest : List Char) :
    replaceChars piece replacement (text ++ rest) =
      text ++ replaceChars piece replacement rest := by
  induction text with
  | nil => rfl
  | cons c cs ih =>
      have unstarted : ¬ piece <+: c :: (cs ++ rest) := not_prefix_of_startsNone none rest
      rw [List.cons_append, replaceChars_cons unstarted, ih (startsNone_cons_iff.mp none).2,
        List.cons_append]

theorem startsNone_of_suffix {whole : List Char} (none : startsNone piece whole = true)
    (suffix : text <:+ whole) : startsNone piece text = true := by
  obtain ⟨before, rfl⟩ := suffix
  induction before with
  | nil => exact none
  | cons c rest ih => exact ih (startsNone_cons_iff.mp none).2

/-- Where the first letter of a piece is missing, no occurrence of the piece starts. -/
theorem startsNone_of_not_mem {c : Char} (missing : c ∉ text) (rest : List Char) :
    startsNone (c :: rest) text = true := by
  induction text with
  | nil => rfl
  | cons d cs ih =>
      rw [List.mem_cons, not_or] at missing
      refine startsNone_cons_iff.mpr ⟨⟨?_, ?_⟩, ih missing.2⟩
      · exact fun occurs => missing.1 (List.cons_prefix_cons.mp occurs).1
      · exact fun occurs => missing.1 (List.cons_prefix_cons.mp occurs).1.symm

/-- In every other text an occurrence starts that the end of the piece may have to complete. -/
theorem exists_occurrence_of_starts (starts : startsNone piece text = false) :
    ∃ rest, rest <:+ piece.tail ∧ piece <:+: text ++ rest := by
  induction text with
  | nil => cases starts
  | cons c cs ih =>
      simp only [startsNone, Bool.and_eq_false_iff, Bool.not_eq_false',
        List.isPrefixOf_iff_prefix] at starts
      rcases starts with (whole | ⟨rest, split⟩) | later
      · exact ⟨[], List.nil_suffix, by simpa using whole.isInfix⟩
      · refine ⟨rest, ⟨cs, congrArg List.tail split⟩, [], [], ?_⟩
        rw [List.nil_append, List.append_nil, split]
      · obtain ⟨rest, suffix, occurs⟩ := ih later
        exact ⟨rest, suffix, occurs.trans (List.suffix_cons ..).isInfix⟩

/-! ## Replacements that show -/

theorem replaceAfter_self (filled : piece ≠ []) (skipped : Nat) (text : List Char) :
    replaceAfter piece piece skipped text = text.drop skipped := by
  obtain ⟨d, ds, rfl⟩ := List.exists_cons_of_ne_nil filled
  induction text generalizing skipped with
  | nil => simp [replaceAfter]
  | cons c rest ih =>
      cases skipped with
      | succ skipped => exact ih skipped
      | zero =>
          rw [replaceAfter]
          split
          · rename_i occurs
            obtain ⟨rfl, more, rfl⟩ :=
              List.cons_prefix_cons.mp (List.isPrefixOf_iff_prefix.mp occurs)
            rw [ih]
            simp
          · rw [ih 0, List.drop_zero, List.drop_zero]

theorem replaceChars_self (filled : piece ≠ []) (text : List Char) :
    replaceChars piece piece text = text :=
  replaceAfter_self filled 0 text

theorem length_le_replaceAfter (filled : piece ≠ []) (longer : piece.length ≤ replacement.length)
    (skipped : Nat) (text : List Char) :
    text.length ≤ (replaceAfter piece replacement skipped text).length + skipped := by
  have := List.length_pos_of_ne_nil filled
  induction text generalizing skipped with
  | nil => exact Nat.zero_le _
  | cons c rest ih =>
      cases skipped with
      | succ skipped =>
          have := ih skipped
          simp only [replaceAfter, List.length_cons]
          omega
      | zero =>
          rw [replaceAfter]
          split
          · have := ih (piece.length - 1)
            simp only [List.length_append, List.length_cons]
            omega
          · have := ih 0
            simp only [List.length_cons]
            omega

theorem replaceAfter_length_le (filled : piece ≠ []) (shorter : replacement.length ≤ piece.length)
    (skipped : Nat) (text : List Char) :
    (replaceAfter piece replacement skipped text).length ≤ text.length - skipped := by
  have := List.length_pos_of_ne_nil filled
  induction text generalizing skipped with
  | nil => cases skipped <;> exact Nat.zero_le _
  | cons c rest ih =>
      cases skipped with
      | succ skipped =>
          have := ih skipped
          simp only [replaceAfter, List.length_cons]
          omega
      | zero =>
          rw [replaceAfter]
          split
          · rename_i occurs
            have := (List.isPrefixOf_iff_prefix.mp occurs).length_le
            have := ih (piece.length - 1)
            simp only [List.length_append, List.length_cons] at *
            omega
          · have := ih 0
            simp only [List.length_cons]
            omega

/-- A replacement other than the piece changes every text in which the piece occurs: behind the
first occurrence, all others lengthen the text if the replacement is longer, and shorten it if it is
shorter. -/
theorem replaceChars_ne_self (filled : piece ≠ []) (other : replacement ≠ piece)
    (occurs : piece <:+: text) : replaceChars piece replacement text ≠ text := by
  induction text with
  | nil => exact absurd (List.eq_nil_of_infix_nil occurs) filled
  | cons c rest ih =>
      by_cases first : piece <+: c :: rest
      · obtain ⟨after, split⟩ := first
        rw [← split, replaceChars_append filled]
        intro same
        have lengths := congrArg List.length same
        simp only [List.length_append] at lengths
        have equal : replacement.length = piece.length := by
          rcases Nat.le_total piece.length replacement.length with longer | shorter
          · have := length_le_replaceAfter filled longer 0 after
            simp only [replaceChars] at lengths
            omega
          · have := replaceAfter_length_le filled shorter 0 after
            simp only [replaceChars] at lengths
            omega
        exact other (List.append_inj_left same equal)
      · rw [replaceChars_cons first]
        intro same
        have later : piece <:+: rest := (List.infix_cons_iff.mp occurs).resolve_left first
        exact ih later (List.cons.inj same).2

/-! ## Pieces -/

/-- The pieces with the separator between them make up the text again. -/
theorem intercalate_splitChars (separator : Char) (cs : List Char) :
    List.intercalate [separator] (splitChars separator cs) = cs := by
  induction cs with
  | nil => rfl
  | cons c rest ih =>
      obtain ⟨piece, pieces, split⟩ :=
        List.exists_cons_of_ne_nil (splitChars_ne_nil separator rest)
      rw [split] at ih
      rw [splitChars, split]
      by_cases same : c = separator
      · rw [if_pos same, List.intercalate_cons_cons, ih, same]
        rfl
      · rw [if_neg same]
        cases pieces with
        | nil => rw [List.intercalate_singleton] at ih ⊢; rw [ih]
        | cons next pieces =>
            rw [List.intercalate_cons_cons] at ih ⊢
            rw [List.cons_append, List.cons_append, ih]

end Chatflow.Text
