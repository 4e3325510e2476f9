import Chatflow.Calendar
import Mathlib.Algebra.BigOperators.Group.List.Basic
import Mathlib.Tactic.Ring

/-!
# Dates and day numbers

Every day number is that of a date.
-/

namespace Chatflow.Calendar

/-! ## Years -/

def yearLength (leap : Bool) : Nat := if leap then 366 else 365

theorem isLeapYear_eq_true_iff {year : Int} :
    isLeapYear year = true ↔ year % 4 = 0 ∧ (year % 100 ≠ 0 ∨ year % 400 = 0) := by
  simp [isLeapYear]

/-- The years before a year, by the cycles that they make up. -/
theorem firstDay_cycles {cycles : Int} {centuries quadrennia years : Nat} (century : centuries ≤ 3)
    (quadrennium : quadrennia ≤ 24) (year : years ≤ 3) :
    firstDay (400 * cycles + 100 * centuries + 4 * quadrennia + years + 1) =
      146097 * cycles + 36524 * centuries + 1461 * quadrennia + 365 * years := by
  rw [firstDay]
  omega

theorem isLeapYear_cycles {cycles : Int} {centuries quadrennia years : Nat}
    (century : centuries ≤ 3) (quadrennium : quadrennia ≤ 24) (year : years ≤ 3) :
    isLeapYear (400 * cycles + 100 * centuries + 4 * quadrennia + years + 1) = true ↔
      years = 3 ∧ (quadrennia ≠ 24 ∨ centuries = 3) := by
  rw [isLeapYear_eq_true_iff]
  omega

/-- A day number is taken apart by cycles.  Only the last year of a cycle has a last day of its
own. -/
theorem exists_yearOf_eq (number : Int) :
    ∃ (cycles : Int) (centuries quadrennia years day : Nat),
      yearOf number = (400 * cycles + 100 * centuries + 4 * quadrennia + years + 1, day) ∧
      centuries ≤ 3 ∧ quadrennia ≤ 24 ∧ years ≤ 3 ∧
      number = 146097 * cycles + 36524 * centuries + 1461 * quadrennia + 365 * years + day ∧
      (day < 365 ∨ day = 365 ∧ years = 3 ∧ (quadrennia ≠ 24 ∨ centuries = 3)) := by
  let inCycle := (number % 146097).toNat
  let centuries := min 3 (inCycle / 36524)
  let inCentury := inCycle - 36524 * centuries
  let quadrennia := inCentury / 1461
  let inQuadrennium := inCentury - 1461 * quadrennia
  let years := min 3 (inQuadrennium / 365)
  -- Of the days in a century, a quadrennium or a year, one more can only be the last of a cycle.
  have century : inCentury < 36524 ∨ inCentury = 36524 ∧ centuries = 3 := by omega
  have quadrennium : inQuadrennium < 1461 ∧
      (inQuadrennium = 1460 → quadrennia ≠ 24 ∨ centuries = 3) := by omega
  refine ⟨number / 146097, centuries, quadrennia, years, inQuadrennium - 365 * years, rfl,
    by omega, by omega, by omega, by omega, ?_⟩
  by_cases last : inQuadrennium = 1460
  · exact .inr ⟨by omega, by omega, quadrennium.2 last⟩
  · exact .inl (by omega)

/-- The day lies in the year that is found for it. -/
theorem firstDay_yearOf (number : Int) :
    firstDay (yearOf number).1 + (yearOf number).2 = number ∧
      (yearOf number).2 < yearLength (isLeapYear (yearOf number).1) := by
  obtain ⟨cycles, centuries, quadrennia, years, day, found, century, quadrennium, year, same,
    fits⟩ := exists_yearOf_eq number
  rw [found, firstDay_cycles century quadrennium year, yearLength]
  refine ⟨same.symm, ?_⟩
  rcases fits with common | ⟨rfl, last⟩
  · split <;> omega
  · rw [(isLeapYear_cycles century quadrennium year).mpr last, if_pos rfl]
    exact Nat.lt_succ_self 365

/-! ## Months -/

theorem sum_monthLengths (leap : Bool) : (monthLengths leap).sum = yearLength leap := by
  cases leap <;> rfl

theorem length_monthLengths (leap : Bool) : (monthLengths leap).length = 12 := rfl

theorem exists_monthOf_eq (first : Nat) {lengths : List Nat} {day : Nat}
    (less : day < lengths.sum) :
    ∃ before length after, lengths = before ++ length :: after ∧
      monthOf first lengths day = (first + before.length, day - before.sum + 1) ∧
      before.sum ≤ day ∧ day < before.sum + length := by
  induction lengths generalizing first day with
  | nil => cases less
  | cons length lengths ih =>
      rw [monthOf]
      split
      case isTrue here => exact ⟨[], length, lengths, rfl, rfl, Nat.zero_le _, by simpa using here⟩
      case isFalse later =>
        rw [List.sum_cons] at less
        obtain ⟨before, own, after, rfl, found, started, inside⟩ :=
          ih (first + 1) (by omega : day - length < lengths.sum)
        refine ⟨length :: before, own, after, rfl, ?_, ?_, ?_⟩
        · rw [found, List.length_cons, List.sum_cons, Nat.sub_sub, Nat.add_assoc, Nat.add_comm 1]
        · rw [List.sum_cons]
          omega
        · rw [List.sum_cons]
          omega

/-! ## Dates -/

theorem exists_dateOf_eq (number : Int) :
    ∃ (year : Int) (before : List Nat) (length : Nat) (after : List Nat) (day : Nat),
      dateOf number = ⟨year, 1 + before.length, day + 1⟩ ∧
      monthLengths (isLeapYear year) = before ++ length :: after ∧ day < length ∧
      firstDay year + before.sum + day = number := by
  obtain ⟨same, less⟩ := firstDay_yearOf number
  rw [← sum_monthLengths] at less
  obtain ⟨before, length, after, lengths, found, started, inside⟩ := exists_monthOf_eq 1 less
  refine ⟨(yearOf number).1, before, length, after, (yearOf number).2 - before.sum, ?_, lengths,
    by omega, by omega⟩
  rw [dateOf]
  simp only [found]

theorem isDate_dateOf (number : Int) : IsDate (dateOf number) := by
  obtain ⟨year, before, length, after, day, found, lengths, inside, -⟩ := exists_dateOf_eq number
  have twelve := length_monthLengths (isLeapYear year)
  rw [lengths, List.length_append, List.length_cons] at twelve
  have own : (before ++ length :: after).getD before.length 0 = length := by simp
  rw [found]
  change 1 ≤ 1 + before.length ∧ 1 + before.length ≤ 12 ∧ 1 ≤ day + 1 ∧
    day + 1 ≤ (monthLengths (isLeapYear year)).getD (1 + before.length - 1) 0
  rw [lengths, Nat.add_sub_cancel_left, own]
  omega

theorem monthLength_le (year : Int) (month : Nat) : monthLength year month ≤ 31 := by
  have each : ∀ leap, ∀ length ∈ monthLengths leap, length ≤ 31 := by decide
  rw [monthLength, List.getD_eq_getElem?_getD]
  cases found : (monthLengths (isLeapYear year))[month - 1]? with
  | none => exact Nat.zero_le 31
  | some length => exact each _ _ (List.mem_of_getElem? found)

theorem dayNumber_dateOf (number : Int) : dayNumber (dateOf number) = number := by
  obtain ⟨year, before, length, after, day, found, lengths, -, same⟩ := exists_dateOf_eq number
  have earlier : daysBefore (isLeapYear year) (1 + before.length) = before.sum := by
    rw [daysBefore, lengths, Nat.add_sub_cancel_left, List.take_left, ← List.sum_eq_foldl]
  rw [found, dayNumber, earlier, Nat.add_sub_cancel]
  exact same

end Chatflow.Calendar
