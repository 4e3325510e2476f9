import Chatflow.RecordId
import Mathlib.Data.String.Basic

/-!
# Texts of record ids

Every id is read from its bare text.
-/

namespace Chatflow.RecordId

/-! ## Digits -/

theorem digitValue?_digitChar {digit : Nat} (small : digit < 32) :
    digitValue? (digitChar digit) = some digit := by
  have each : ∀ digit < 32, digitValue? (digitChar digit) = some digit := by decide
  exact each digit small

/-- Digits are characters of one byte. -/
theorem utf8Len_digitsOf (count n : Nat) : String.utf8Len (digitsOf count n) = count := by
  induction count generalizing n with
  | zero => rfl
  | succ count ih =>
      have each : ∀ digit < 32, String.utf8Len [digitChar digit] = 1 := by decide
      rw [digitsOf, String.utf8Len_append, ih, each _ (Nat.mod_lt n (by decide))]

theorem valueAfter?_append {value : Nat} (cs later : List Char) :
    valueAfter? value (cs ++ later) = (valueAfter? value cs).bind (valueAfter? · later) := by
  induction cs generalizing value with
  | nil => rfl
  | cons c cs ih =>
      rw [List.cons_append, valueAfter?, valueAfter?]
      cases digitValue? c with
      | none => rfl
      | some digit => exact ih

theorem valueAfter?_digitsOf (value count n : Nat) :
    valueAfter? value (digitsOf count n) = some (value * 32 ^ count + n % 32 ^ count) := by
  induction count generalizing n with
  | zero => rw [digitsOf, valueAfter?, Nat.pow_zero, Nat.mul_one, Nat.mod_one, Nat.add_zero]
  | succ count ih =>
      rw [digitsOf, valueAfter?_append, ih, Option.bind_some, valueAfter?,
        digitValue?_digitChar (Nat.mod_lt n (by decide)), Option.bind_some, valueAfter?,
        Nat.pow_succ', Nat.mod_mul, Nat.mul_add, Nat.mul_left_comm]
      congr 1
      omega

/-! ## Texts -/

variable {kind : RecordKind}

theorem utf8ByteSize_bare (id : RecordId kind) : id.bare.utf8ByteSize = width := by
  rw [bare, String.utf8ByteSize_ofList, utf8Len_digitsOf]

theorem ofBare_bare (id : RecordId kind) : ofBare id.bare = .ok id := by
  -- All ids have fewer than 131 bits, and 26 digits hold as many.
  have small : id.value.val < 32 ^ width := id.value.isLt.trans (by decide)
  rw [ofBare, if_neg (not_not.mpr id.utf8ByteSize_bare), bare, String.toList_ofList,
    valueAfter?_digitsOf, Nat.zero_mul, Nat.zero_add, Nat.mod_eq_of_lt small]
  change Except.ok (RecordId.mk (Fin.ofNat idCount id.value)) = _
  rw [Fin.ofNat_val_eq_self]

end Chatflow.RecordId
