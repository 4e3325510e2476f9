import Chatflow.Proofs.Text.LetterCase

/-!
# Pieces of texts in lower case

The lower case of a piece need not be a piece of the lower case of the text around it: a capital
sigma may be the last letter of the piece and not of its word.  It always is one if and only if the
piece itself tells the form of each capital sigma in it.
-/

namespace Chatflow.Text

variable {before after seen piece : List Char}

/-- Whatever stands further out, a capital sigma between these texts has the same form: a letter
with case follows, or a letter without case stands before it, or the next letters on both sides
tell that it ends a word.  What stands before is given backwards. -/
def isSettled (before after : List Char) : Bool :=
  meetsCased after ||
    !before.all isCaseIgnorable && (!meetsCased before || !after.all isCaseIgnorable)

def settlesFrom (before : List Char) : List Char → Bool
  | [] => true
  | c :: after => (c != capitalSigma || isSettled before after) && settlesFrom (c :: before) after

/-- The text tells the form of every capital sigma in it. -/
def SettlesSigmas (text : String) : Prop := settlesFrom [] text.toList = true

instance (text : String) : Decidable (SettlesSigmas text) :=
  inferInstanceAs (Decidable (_ = true))

/-! ## Settled pieces -/

theorem meetsCased_of_all_ignorable (ignorable : before.all isCaseIgnorable = true) :
    meetsCased before = false := by
  simpa [ignorable, meetsCased_nil] using meetsCased_append before []

theorem isWordEnd_of_isSettled (settled : isSettled before after = true) (left right : List Char) :
    isWordEnd (before ++ left) (after ++ right) = isWordEnd before after := by
  rw [isWordEnd, isWordEnd, meetsCased_append, meetsCased_append]
  simp only [isSettled, Bool.or_eq_true, Bool.and_eq_true, Bool.not_eq_true'] at settled
  rcases settled with follows | ⟨plain, uncased | closed⟩
  · have through : after.all isCaseIgnorable = false := by
      cases ignorable : after.all isCaseIgnorable with
      | false => rfl
      | true => rw [meetsCased_of_all_ignorable ignorable] at follows; cases follows
    simp [through, follows]
  · simp [plain, uncased]
  · simp [plain, closed]

theorem lowerBetween_of_settles (settles : settlesFrom seen piece = true)
    (before after : List Char) :
    lowerBetween (seen ++ before) piece after = lowerAfter seen piece := by
  induction piece generalizing seen with
  | nil => rfl
  | cons c rest ih =>
      rw [settlesFrom, Bool.and_eq_true] at settles
      have form : smallFormIn (seen ++ before) c (rest ++ after) = smallFormIn seen c rest := by
        rw [smallFormIn, smallFormIn]
        by_cases sigma : c = capitalSigma
        · have settled : isSettled seen rest = true := by simpa [sigma] using settles.1
          rw [isWordEnd_of_isSettled settled]
        · rw [if_neg sigma, if_neg sigma]
      rw [lowerBetween, lowerAfter, form, ← List.cons_append, ih settles.2]

/-! ## Pieces that are not settled -/

theorem meetsCased_append_letter (cs : List Char) :
    meetsCased (cs ++ ['a']) = (cs.all isCaseIgnorable || meetsCased cs) := by
  have letter : meetsCased ['a'] = true := by decide +kernel
  rw [meetsCased_append, letter]
  cases cs.all isCaseIgnorable <;> rfl

theorem smallFormIn_of_ne {c : Char} (plain : c ≠ capitalSigma) (before after : List Char) :
    smallFormIn before c after = smallForm c :=
  if_neg plain

theorem count_final_smallFormIn (before after : List Char) :
    (smallFormIn before capitalSigma after).count 'ς' = (isWordEnd before after).toNat := by
  rw [smallFormIn, if_pos rfl]
  cases isWordEnd before after <;> rfl

theorem count_medial_smallFormIn (before after : List Char) :
    (smallFormIn before capitalSigma after).count 'σ' = (!isWordEnd before after).toNat := by
  rw [smallFormIn, if_pos rfl]
  cases isWordEnd before after <;> rfl

theorem count_final_smallFormIn_le (before : List Char) (c : Char) (after : List Char) :
    (smallFormIn before c (after ++ ['a'])).count 'ς' ≤ (smallFormIn before c after).count 'ς' := by
  by_cases sigma : c = capitalSigma
  · rw [sigma, count_final_smallFormIn, count_final_smallFormIn, isWordEnd, isWordEnd,
      meetsCased_append_letter]
    cases meetsCased before <;> cases meetsCased after <;>
      cases after.all isCaseIgnorable <;> decide
  · rw [smallFormIn_of_ne sigma, smallFormIn_of_ne sigma]

theorem count_medial_smallFormIn_le (before : List Char) (c : Char) (after : List Char) :
    (smallFormIn (before ++ ['a']) c after).count 'σ' ≤ (smallFormIn before c after).count 'σ' := by
  by_cases sigma : c = capitalSigma
  · rw [sigma, count_medial_smallFormIn, count_medial_smallFormIn, isWordEnd, isWordEnd,
      meetsCased_append_letter]
    cases meetsCased before <;> cases meetsCased after <;>
      cases before.all isCaseIgnorable <;> decide
  · rw [smallFormIn_of_ne sigma, smallFormIn_of_ne sigma]

theorem toNat_isWordEnd_lt (unsettled : isSettled before after = false) :
    (isWordEnd before (after ++ ['a'])).toNat < (isWordEnd before after).toNat ∨
      (!isWordEnd (before ++ ['a']) after).toNat < (!isWordEnd before after).toNat := by
  simp only [isSettled, Bool.or_eq_false_iff, Bool.and_eq_false_iff, Bool.not_eq_false'] at unsettled
  rw [isWordEnd, isWordEnd, isWordEnd, meetsCased_append_letter, meetsCased_append_letter]
  rcases unsettled with ⟨free, ignorable | ⟨cased, ignorable⟩⟩
  · simp [free, ignorable, meetsCased_of_all_ignorable ignorable]
  · simp [free, ignorable, cased]

theorem count_final_le (seen piece : List Char) :
    (lowerBetween seen piece ['a']).count 'ς' ≤ (lowerAfter seen piece).count 'ς' := by
  induction piece generalizing seen with
  | nil => exact Nat.le_refl _
  | cons c rest ih =>
      rw [lowerBetween, lowerAfter, List.count_append, List.count_append]
      exact Nat.add_le_add (count_final_smallFormIn_le seen c rest) (ih _)

theorem count_medial_le (seen piece : List Char) :
    (lowerAfter (seen ++ ['a']) piece).count 'σ' ≤ (lowerAfter seen piece).count 'σ' := by
  induction piece generalizing seen with
  | nil => exact Nat.le_refl _
  | cons c rest ih =>
      rw [lowerAfter, lowerAfter, List.count_append, List.count_append, ← List.cons_append]
      exact Nat.add_le_add (count_medial_smallFormIn_le seen c rest) (ih _)

/-- If a sigma is not settled, a letter behind the piece or one before it changes its form, and no
other letter makes up for it. -/
theorem count_lt_of_unsettled (unsettled : settlesFrom seen piece = false) :
    (lowerBetween seen piece ['a']).count 'ς' < (lowerAfter seen piece).count 'ς' ∨
      (lowerAfter (seen ++ ['a']) piece).count 'σ' < (lowerAfter seen piece).count 'σ' := by
  induction piece generalizing seen with
  | nil => cases unsettled
  | cons c rest ih =>
      simp only [lowerBetween, lowerAfter, List.count_append, ← List.cons_append]
      rw [settlesFrom, Bool.and_eq_false_iff, Bool.or_eq_false_iff] at unsettled
      rcases unsettled with ⟨sigma, here⟩ | later
      · have sigma : c = capitalSigma := by simpa using sigma
        rw [sigma]
        simp only [count_final_smallFormIn, count_medial_smallFormIn]
        exact (toNat_isWordEnd_lt here).imp
          (fun lt => Nat.add_lt_add_of_lt_of_le lt (count_final_le _ rest))
          (fun lt => Nat.add_lt_add_of_lt_of_le lt (count_medial_le _ rest))
      · exact (ih later).imp
          (fun lt => Nat.add_lt_add_of_le_of_lt (count_final_smallFormIn_le seen c rest) lt)
          (fun lt => Nat.add_lt_add_of_le_of_lt (count_medial_smallFormIn_le seen c rest) lt)

/-! ## Pieces of texts -/

theorem lowerChars_infix_of_settles {text : List Char} (settles : settlesFrom [] piece = true)
    (occurs : piece <:+: text) : lowerChars piece <:+: lowerChars text := by
  obtain ⟨before, after, rfl⟩ := occurs
  refine ⟨lowerBetween [] before (piece ++ after),
    lowerAfter (piece.reverse ++ (before.reverse ++ [])) after, ?_⟩
  have inPlace := lowerBetween_of_settles settles (before.reverse ++ []) after
  rw [List.append_assoc, List.append_assoc, lowerChars, lowerChars, lowerAfter_append,
    lowerAfter_append, ← inPlace, List.nil_append]

/-- The lower case of a piece is a piece of the lower case of every text around it if and only if
the piece settles its sigmas. -/
theorem lowerChars_infix_iff (piece : List Char) :
    (∀ text, piece <:+: text → lowerChars piece <:+: lowerChars text) ↔
      settlesFrom [] piece = true := by
  refine ⟨fun found => ?_, fun settles text => lowerChars_infix_of_settles settles⟩
  by_contra unsettled
  rw [Bool.not_eq_true] at unsettled
  have letter : IsSmall 'a' := ⟨by decide, by decide +kernel⟩
  -- The sigmas of one form are counted: the text around the piece has fewer of them than the
  -- piece alone.
  rcases count_lt_of_unsettled unsettled with fewer | fewer
  · have fits := (found (piece ++ ['a']) (List.prefix_append ..).isInfix).sublist.count_le 'ς'
    rw [lowerChars, lowerChars, lowerAfter_append, List.count_append, lowerAfter,
      letter.smallFormIn] at fits
    exact Nat.not_lt.mpr fits fewer
  · have fits := (found ('a' :: piece) (List.suffix_cons ..).isInfix).sublist.count_le 'σ'
    rw [lowerChars, lowerChars, lowerAfter, letter.smallFormIn, List.count_append] at fits
    exact Nat.not_lt.mpr fits (by simpa using fewer)

end Chatflow.Text
