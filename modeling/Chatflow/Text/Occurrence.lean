/-!
# Occurrences

Finding, replacing and splitting at a piece of text.  Everything is stated on lists of characters;
the functions on strings are wrappers.
-/

namespace Chatflow.Text

/-! ## Finding -/

def occurs (piece : List Char) : List Char → Bool
  | [] => piece.isEmpty
  | c :: rest => piece.isPrefixOf (c :: rest) || occurs piece rest

theorem occurs_iff (piece text : List Char) : occurs piece text = true ↔ piece <:+: text := by
  induction text with
  | nil => simp [occurs]
  | cons c rest inductionHypothesis =>
    simp [occurs, inductionHypothesis, List.infix_cons_iff]

def contains (text piece : String) : Bool := occurs piece.toList text.toList

def startsWith (text start : String) : Bool := start.toList.isPrefixOf text.toList

/-! ## Replacing -/

/-- Replaces the occurrences of a piece from left to right after skipping some characters. -/
def replaceAfter (piece replacement : List Char) : Nat → List Char → List Char
  | _, [] => []
  | skipped + 1, _ :: rest => replaceAfter piece replacement skipped rest
  | 0, c :: rest =>
    if piece.isPrefixOf (c :: rest) then
      replacement ++ replaceAfter piece replacement (piece.length - 1) rest
    else c :: replaceAfter piece replacement 0 rest

def replaceChars (piece replacement text : List Char) : List Char :=
  replaceAfter piece replacement 0 text

def replaceAll (text piece replacement : String) : String :=
  String.ofList (replaceChars piece.toList replacement.toList text.toList)

theorem replaceAfter_skip (piece replacement skipped rest : List Char) :
    replaceAfter piece replacement skipped.length (skipped ++ rest) =
      replaceChars piece replacement rest := by
  induction skipped with
  | nil => rfl
  | cons c cs inductionHypothesis => simpa [replaceAfter] using inductionHypothesis

theorem replaceChars_append {piece : List Char} (hpiece : piece ≠ []) (replacement rest : List Char) :
    replaceChars piece replacement (piece ++ rest) =
      replacement ++ replaceChars piece replacement rest := by
  cases piece with
  | nil => exact absurd rfl hpiece
  | cons c cs =>
    have hprefix : (c :: cs).isPrefixOf (c :: (cs ++ rest)) = true := by
      simp
    simp only [replaceChars, List.cons_append, replaceAfter, hprefix, if_true, List.length_cons,
      Nat.add_sub_cancel]
    congr 1
    exact replaceAfter_skip (c :: cs) replacement cs rest

theorem replaceChars_cons {piece : List Char} {c : Char} {rest : List Char}
    (h : ¬ piece <+: c :: rest) (replacement : List Char) :
    replaceChars piece replacement (c :: rest) = c :: replaceChars piece replacement rest := by
  have : piece.isPrefixOf (c :: rest) = false := by
    simpa [← List.isPrefixOf_iff_prefix] using h
  simp [replaceChars, replaceAfter, this]

/-! ## Splitting -/

/-- The pieces between the separators; there is one more piece than separators. -/
def splitChars (separator : Char) : List Char → List (List Char)
  | [] => [[]]
  | c :: rest =>
    if c = separator then [] :: splitChars separator rest
    else
      match splitChars separator rest with
      | [] => [[c]]
      | piece :: pieces => (c :: piece) :: pieces

theorem splitChars_ne_nil (separator : Char) (cs : List Char) : splitChars separator cs ≠ [] := by
  cases cs with
  | nil => simp [splitChars]
  | cons c rest =>
    simp only [splitChars]
    split
    · simp
    · split <;> simp

theorem splitChars_of_not_mem {separator : Char} {cs : List Char} (h : separator ∉ cs) :
    splitChars separator cs = [cs] := by
  induction cs with
  | nil => rfl
  | cons c rest inductionHypothesis =>
    rw [List.mem_cons, not_or] at h
    simp [splitChars, Ne.symm h.1, inductionHypothesis h.2]

theorem splitChars_append (separator : Char) (left right : List Char) :
    splitChars separator (left ++ separator :: right) =
      splitChars separator left ++ splitChars separator right := by
  induction left with
  | nil => simp [splitChars]
  | cons c rest inductionHypothesis =>
    by_cases hc : c = separator
    · simp [splitChars, hc, inductionHypothesis]
    · simp only [List.cons_append, splitChars, hc, if_false, inductionHypothesis]
      cases hrest : splitChars separator rest with
      | nil => exact absurd hrest (splitChars_ne_nil separator rest)
      | cons piece pieces => simp

def split (text : String) (separator : Char) : List String :=
  (splitChars separator text.toList).map String.ofList

end Chatflow.Text
