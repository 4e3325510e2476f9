/-!
# The Gregorian calendar

Days are counted from the first of January of the year 1, which is day 0; the calendar extends
to all years before it.  A date is taken apart by cycles of 400, 100, 4 and 1 years, and the day
of the year by the lengths of the months.
-/

namespace Chatflow

structure Date where
  year : Int
  month : Nat
  day : Nat
deriving DecidableEq, Repr

namespace Calendar

def isLeapYear (year : Int) : Bool :=
  year % 4 == 0 && (year % 100 != 0 || year % 400 == 0)

def monthLengths (leap : Bool) : List Nat :=
  [31, if leap then 29 else 28, 31, 30, 31, 30, 31, 31, 30, 31, 30, 31]

def monthLength (year : Int) (month : Nat) : Nat :=
  (monthLengths (isLeapYear year)).getD (month - 1) 0

def IsDate (date : Date) : Prop :=
  1 ≤ date.month ∧ date.month ≤ 12 ∧ 1 ≤ date.day ∧ date.day ≤ monthLength date.year date.month

instance (date : Date) : Decidable (IsDate date) := by unfold IsDate; infer_instance

/-! ## Counting days -/

def firstDay (year : Int) : Int :=
  365 * (year - 1) + (year - 1) / 4 - (year - 1) / 100 + (year - 1) / 400

def daysBefore (leap : Bool) (month : Nat) : Nat := ((monthLengths leap).take (month - 1)).foldl (· + ·) 0

def dayNumber (date : Date) : Int :=
  firstDay date.year + daysBefore (isLeapYear date.year) date.month + (date.day - 1 : Nat)

/-! ## Taking a day number apart -/

/-- The year of a day number and the number of days in that year before it. -/
def yearOf (number : Int) : Int × Nat :=
  let cycles := number / 146097
  let day := (number % 146097).toNat
  let centuries := min 3 (day / 36524)
  let day := day - 36524 * centuries
  let quadrennia := day / 1461
  let day := day - 1461 * quadrennia
  let years := min 3 (day / 365)
  (400 * cycles + 100 * centuries + 4 * quadrennia + years + 1, day - 365 * years)

/-- The month and the day in it, given the months that are left and the number of the first of
them. -/
def monthOf (month : Nat) : List Nat → Nat → Nat × Nat
  | [], day => (month, day + 1)
  | length :: lengths, day =>
    if day < length then (month, day + 1) else monthOf (month + 1) lengths (day - length)

def dateOf (number : Int) : Date :=
  let (year, day) := yearOf number
  let (month, day) := monthOf 1 (monthLengths (isLeapYear year)) day
  ⟨year, month, day⟩

end Calendar

end Chatflow
