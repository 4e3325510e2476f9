/-!
# Integers of 64 bits

The ranges of integers that 64 bits hold, with a sign or without.
-/

namespace Chatflow.Decimal

/-- The number of 64-bit words, `2 ^ 64`. -/
abbrev wordCount : Nat := 18446744073709551616

abbrev FitsSigned (n : Int) : Prop := -9223372036854775808 ≤ n ∧ n ≤ 9223372036854775807

def int64OfInt? (n : Int) : Option Int64 := if FitsSigned n then some (Int64.ofInt n) else none

@[simp] theorem int64OfInt?_toInt (n : Int64) : int64OfInt? n.toInt = some n := by
  have lower := Int64.le_toInt n
  have upper := Int64.toInt_lt n
  have fits : FitsSigned n.toInt := by
    constructor <;> omega
  simp [int64OfInt?, fits]

theorem int64OfInt?_eq_some_iff {n : Int} {word : Int64} :
    int64OfInt? n = some word ↔ n = word.toInt := by
  refine ⟨fun read => ?_, fun same => same ▸ int64OfInt?_toInt word⟩
  rw [int64OfInt?] at read
  split at read
  case isTrue fits =>
    cases read
    rw [Int64.toInt_ofInt_of_le fits.1 (Int.lt_of_le_sub_one fits.2)]
  case isFalse => cases read

end Chatflow.Decimal
