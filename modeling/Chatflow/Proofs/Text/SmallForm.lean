import Chatflow.Text.Blank
import Chatflow.Text.LetterCase

/-!
# Small forms

What the tables of letter case say about small forms: lower-casing changes none of them any more,
it keeps the blanks, and it makes no blank out of anything else.
-/

namespace Chatflow

namespace Unicode

variable {run other : Run} {runs others : List Run} {code : Nat} {c : Char}

/-- No code point is in both runs, as their bounds tell or, for runs of alternating letters, the
parities of their members. -/
def Run.isApart (run other : Run) : Bool :=
  Nat.blt run.last other.first || Nat.blt other.last run.first ||
    ((run.step == 2 || run.first == run.last) && other.step == 2 &&
      (run.first + other.first) % 2 == 1)

theorem Run.contains_eq_false_of_isApart (apart : run.isApart other = true)
    (inside : run.contains code = true) : other.contains code = false := by
  rw [contains_iff] at inside
  obtain ⟨low, high, steps⟩ := inside
  simp only [isApart, Bool.or_eq_true, Bool.and_eq_true, Nat.blt_eq, beq_iff_eq] at apart
  rw [← Bool.not_eq_true, contains_iff]
  rintro ⟨otherLow, otherHigh, otherSteps⟩
  rcases apart with (below | above) | ⟨⟨twos | single, otherTwos⟩, odd⟩
  · omega
  · omega
  · rw [twos] at steps
    rw [otherTwos] at otherSteps
    omega
  · rw [otherTwos] at otherSteps
    omega

/-- No code point is in both tables. -/
def areApart (runs others : List Run) : Bool := runs.all fun run => others.all run.isApart

theorem contains_eq_false_of_areApart (apart : areApart runs others = true)
    (member : run ∈ runs) (inside : run.contains code = true) (otherMember : other ∈ others) :
    other.contains code = false :=
  Run.contains_eq_false_of_isApart
    (List.all_eq_true.mp (List.all_eq_true.mp apart run member) other otherMember) inside

theorem inRuns_eq_false_of_areApart (apart : areApart runs others = true)
    (member : run ∈ runs) (inside : run.contains c.toNat = true) : inRuns others c = false :=
  List.any_eq_false.mpr fun _ otherMember =>
    Bool.eq_false_iff.mp (contains_eq_false_of_areApart apart member inside otherMember)

end Unicode

namespace Text

open Unicode LetterCase

variable {row : Capitals} {code : Nat} {c d : Char}

/-! ## The table of capital letters -/

/-- The run of the small letters of a run of capitals. -/
def LetterCase.Capitals.smallLetters (row : Capitals) : Run where
  first := (row.members.first + row.distance).toNat
  last := (row.members.last + row.distance).toNat
  step := row.members.step

theorem smallLetters_capitals :
    ∀ row ∈ capitals, 0 ≤ (row.members.first : Int) + row.distance ∧
      (row.smallLetters.last < 0xD800 ∨
        0xDFFF < row.smallLetters.first ∧ row.smallLetters.last < 0x110000) := by
  decide +kernel

theorem areApart_smallLetters_capitals :
    areApart (capitals.map (·.smallLetters))
      (⟨dottedCapitalI.toNat, dottedCapitalI.toNat, 1⟩ :: capitals.map (·.members)) = true := by
  decide +kernel

theorem areApart_smallLetters_blankRuns :
    areApart (capitals.map (·.smallLetters)) blankRuns = true := by
  decide +kernel

theorem areApart_blankRuns :
    areApart blankRuns (capitals.map (·.members) ++ casedRuns ++ caseIgnorableRuns) = true := by
  decide +kernel

theorem contains_smallLetters (member : row ∈ capitals)
    (inside : row.members.contains code = true) :
    row.smallLetters.contains (code + row.distance).toNat = true := by
  have low := (smallLetters_capitals row member).1
  rw [Run.contains_iff] at inside ⊢
  obtain ⟨first, last, steps⟩ := inside
  have sameGap : (code + row.distance).toNat - (row.members.first + row.distance).toNat =
      code - row.members.first := by
    omega
  refine ⟨?_, ?_, ?_⟩
  · simp only [Capitals.smallLetters]
    omega
  · simp only [Capitals.smallLetters]
    omega
  · simpa only [Capitals.smallLetters, sameGap] using steps

theorem smallCode_eq_self (outside : ∀ row ∈ capitals, row.members.contains code = false) :
    smallCode code = code := by
  have unfound : capitals.find? (·.members.contains code) = none :=
    List.find?_eq_none.mpr fun row member => Bool.eq_false_iff.mp (outside row member)
  rw [smallCode, unfound]

/-- A code point stays as it is, or becomes one of the small letters of the table. -/
theorem smallCode_cases (code : Nat) :
    smallCode code = code ∨
      ∃ row ∈ capitals, row.smallLetters.contains (smallCode code) = true := by
  rw [smallCode]
  cases found : capitals.find? (·.members.contains code) with
  | none => exact .inl rfl
  | some row =>
      have member := List.mem_of_find?_eq_some found
      have inside := List.find?_some found
      exact .inr ⟨row, member, contains_smallLetters member inside⟩

theorem smallCode_of_smallLetters (member : row ∈ capitals)
    (small : row.smallLetters.contains code = true) : smallCode code = code := by
  refine smallCode_eq_self fun other otherMember => ?_
  exact contains_eq_false_of_areApart areApart_smallLetters_capitals
    (List.mem_map_of_mem member) small (.tail _ (List.mem_map_of_mem otherMember))

theorem isValidChar_of_smallLetters (member : row ∈ capitals)
    (small : row.smallLetters.contains code = true) : code.isValidChar := by
  obtain ⟨first, last, -⟩ := (Run.contains_iff _ _).mp small
  rcases (smallLetters_capitals row member).2 with low | high
  · exact .inl (by omega)
  · exact .inr (by omega)

/-! ## Small forms of single letters -/

/-- Lower-casing leaves the letter as it is, wherever it stands. -/
structure IsSmall (c : Char) : Prop where
  ne_sigma : c ≠ capitalSigma
  smallForm : smallForm c = [c]

theorem smallForm_of_ne (plain : c ≠ dottedCapitalI) :
    smallForm c = [Char.ofNat (smallCode c.toNat)] :=
  if_neg plain

theorem isSmall_of_smallCode (plain : c ≠ dottedCapitalI) (small : smallCode c.toNat = c.toNat) :
    IsSmall c where
  ne_sigma := by
    rintro rfl
    exact absurd small (by decide +kernel)
  smallForm := by rw [smallForm_of_ne plain, small, Char.ofNat_toNat]

/-- What a small form is made of: the letter itself, the two parts of a dotted capital I, or a small
letter of the table. -/
theorem mem_smallForm_cases (h : d ∈ smallForm c) :
    d = c ∧ IsSmall c ∨ (d = 'i' ∨ d = '\u0307') ∨
      ∃ row ∈ capitals, row.smallLetters.contains d.toNat = true := by
  by_cases dotted : c = dottedCapitalI
  · subst dotted
    exact .inr (.inl (by simpa [smallForm] using h))
  · rw [smallForm_of_ne dotted, List.mem_singleton] at h
    rcases smallCode_cases c.toNat with same | ⟨row, member, small⟩
    · rw [same, Char.ofNat_toNat] at h
      exact .inl ⟨h, isSmall_of_smallCode dotted same⟩
    · have valid := isValidChar_of_smallLetters member small
      have code : d.toNat = smallCode c.toNat := by
        rw [h, Char.ofNat, dif_pos valid]
        rfl
      exact .inr (.inr ⟨row, member, code.symm ▸ small⟩)

theorem isSmall_of_smallLetters (member : row ∈ capitals)
    (small : row.smallLetters.contains c.toNat = true) : IsSmall c := by
  refine isSmall_of_smallCode ?_ (smallCode_of_smallLetters member small)
  rintro rfl
  have outside := contains_eq_false_of_areApart areApart_smallLetters_capitals
    (List.mem_map_of_mem member) small (.head _)
  exact absurd outside (by decide)

theorem isSmall_of_mem_smallForm (h : d ∈ smallForm c) : IsSmall d := by
  rcases mem_smallForm_cases h with ⟨rfl, small⟩ | (rfl | rfl) | ⟨row, member, small⟩
  · exact small
  · exact ⟨by decide, by decide +kernel⟩
  · exact ⟨by decide, by decide +kernel⟩
  · exact isSmall_of_smallLetters member small

/-! ## Blanks -/

theorem exists_run_of_isBlank (blank : isBlank c = true) :
    ∃ run ∈ blankRuns, run.contains c.toNat = true :=
  List.any_eq_true.mp blank

theorem isSmall_of_isBlank (blank : isBlank c = true) : IsSmall c := by
  obtain ⟨run, member, inside⟩ := exists_run_of_isBlank blank
  refine isSmall_of_smallCode ?_ (smallCode_eq_self fun row rowMember => ?_)
  · rintro rfl
    exact absurd blank (by decide)
  · exact contains_eq_false_of_areApart areApart_blankRuns member inside
      (List.mem_append_left _ (List.mem_append_left _ (List.mem_map_of_mem rowMember)))

theorem isBlank_of_mem_smallForm (h : d ∈ smallForm c) (solid : isBlank c = false) :
    isBlank d = false := by
  rcases mem_smallForm_cases h with ⟨rfl, -⟩ | (rfl | rfl) | ⟨row, member, small⟩
  · exact solid
  · decide
  · decide
  · exact inRuns_eq_false_of_areApart areApart_smallLetters_blankRuns
      (List.mem_map_of_mem member) small

end Text

end Chatflow
