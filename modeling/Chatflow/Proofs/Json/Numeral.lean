import Chatflow.Json.Reader
import Chatflow.Json.Writer
import Chatflow.Proofs.Decimal.Notation

/-!
# Written numbers

A numeral without fraction and exponent stands for an integer as long as this is in range and not
minus zero, and the numeral that is written for an integer stands for it again.
-/

namespace Chatflow.Json

open Decimal

namespace Numeral

/-! ## Values of numerals -/

theorem le_foldl_digits (digits : List Nat) (value : Nat) :
    value ≤ digits.foldl (fun value digit => value * 10 + digit) value := by
  induction digits generalizing value with
  | nil => exact Nat.le_refl value
  | cons digit digits ih =>
      have bound := ih (value * 10 + digit)
      simp only [List.foldl_cons]
      omega

theorem absorb_snd_eq_nil_iff {significand : Nat} {digits : List Nat}
    (fits : significand < wordCount) :
    (absorb significand digits).2 = [] ↔
      digits.foldl (fun value digit => value * 10 + digit) significand < wordCount := by
  induction digits generalizing significand with
  | nil => simpa [absorb] using fits
  | cons digit digits ih =>
      rw [absorb, List.foldl_cons]
      split
      case isTrue more => exact ih more
      case isFalse exceeds =>
        have bound := le_foldl_digits digits (significand * 10 + digit)
        simp only [List.cons_ne_nil, false_iff]
        omega

theorem absorb_fst_of_snd_eq_nil {significand : Nat} {digits : List Nat}
    (all : (absorb significand digits).2 = []) :
    (absorb significand digits).1 =
      digits.foldl (fun value digit => value * 10 + digit) significand := by
  induction digits generalizing significand with
  | nil => rfl
  | cons digit digits ih =>
      rw [absorb] at all ⊢
      split
      case isTrue more =>
        rw [if_pos more] at all
        exact ih all
      case isFalse exceeds =>
        rw [if_neg exceeds] at all
        cases all

/-- The integer that the digits stand for with the sign. -/
def signedValue (numeral : Numeral) : Int :=
  if numeral.negative then -(decimalValue numeral.digits : Int) else decimalValue numeral.digits

theorem ofInt?_eq_some_iff {value : Int} {n : Whole} :
    Whole.ofInt? value = some n ↔ n.value = value := by
  constructor
  · intro found
    rw [Whole.ofInt?] at found
    split at found
    · cases found
      rfl
    · cases found
  · rintro rfl
    exact Whole.ofInt?_value n

theorem integerValue?_eq_whole_iff {negative : Bool} {magnitude : Nat} {n : Whole} :
    integerValue? negative magnitude = some (.whole n) ↔
      ¬ (negative = true ∧ magnitude = 0) ∧
        n.value = if negative then -(magnitude : Int) else magnitude := by
  have inRange := n.inRange
  rw [integerValue?]
  split
  case isTrue special =>
    simp only [Bool.and_eq_true, Bool.or_eq_true, beq_iff_eq, decide_eq_true_eq] at special
    obtain ⟨rfl, zero | large⟩ := special
    · simp [zero]
    · simp only [if_true]
      constructor
      · intro found
        obtain ⟨x, -, other⟩ := Option.map_eq_some_iff.mp found
        cases other
      · rintro ⟨-, same⟩
        omega
  case isFalse plain =>
    simp only [Bool.and_eq_true, Bool.or_eq_true, beq_iff_eq, decide_eq_true_eq, not_and,
      not_or] at plain
    simp only [Option.map_eq_some_iff, Number.whole.injEq, exists_eq_right, ofInt?_eq_some_iff]
    exact (and_iff_right fun both => (plain both.1).1 both.2).symm

/-- A numeral stands for an integer if it has neither fraction nor exponent, is not minus zero, and
the integer is in range. -/
theorem value?_eq_whole_iff {numeral : Numeral} {n : Whole} :
    numeral.value? = some (.whole n) ↔
      numeral.fraction = none ∧ numeral.exponent = none ∧
        ¬ (numeral.negative = true ∧ decimalValue numeral.digits = 0) ∧
        n.value = numeral.signedValue := by
  obtain ⟨negative, digits, fraction, exponent⟩ := numeral
  have binary (x : Option Binary64) : x.map Number.binary ≠ some (.whole n) := by
    cases x <;> simp
  have inRange := n.inRange
  have fits_iff : (absorb 0 digits).2 = [] ↔ decimalValue digits < wordCount :=
    absorb_snd_eq_nil_iff (by decide)
  simp only [value?, signedValue]
  cases fraction with
  | some places => simp [binary]
  | none =>
      cases exponent with
      | some written => simp [binary]
      | none =>
          cases dropped : (absorb 0 digits).2 with
          | nil =>
              have same : (absorb 0 digits).1 = decimalValue digits :=
                absorb_fst_of_snd_eq_nil dropped
              simp only [same, integerValue?_eq_whole_iff, true_and]
          | cons digit rest =>
              have exceeds : 18446744073709551616 ≤ decimalValue digits := by
                rw [← Nat.not_lt, ← fits_iff, dropped]
                exact List.cons_ne_nil _ _
              simp only [binary, false_iff, true_and, not_and]
              intro _ equal
              cases negative <;> simp at equal <;> omega

end Numeral

/-! ## Digits -/

theorem readDigits_append {digits rest : List Char} (all : ∀ c ∈ digits, c.isDigit = true)
    (stops : ∀ c ∈ rest.head?, c.isDigit = false) :
    readDigits (digits ++ rest) = (digits.map digitValue, rest) :=
  congrArg (fun parts => (parts.1.map digitValue, parts.2)) (splitDigits_append all stops)

theorem digitValue_digitChar {n : Nat} (small : n < 10) : digitValue n.digitChar = n := by
  rw [digitValue, Nat.toNat_digitChar_of_lt_ten small]
  exact Nat.add_sub_cancel_left 48 n

theorem decimalValue_toDigits (n : Nat) :
    Numeral.decimalValue ((Nat.toDigits 10 n).map digitValue) = n := by
  have digits := Nat.ofDigitChars_toDigits (b := 10) (n := n) (by decide) (by decide)
  rw [Nat.ofDigitChars_eq_foldl] at digits
  rw [Numeral.decimalValue, List.foldl_map]
  simpa only [Nat.mul_comm, digitValue] using digits

/-- Only zero is written with a zero in front. -/
theorem toDigits_eq_cons (n : Nat) :
    ∃ first rest, (Nat.toDigits 10 n).map digitValue = first :: rest ∧ (first = 0 → rest = []) := by
  have shortest := isShortest_toDigits n
  obtain ⟨c, cs, same⟩ := List.exists_cons_of_ne_nil shortest.ne_nil
  refine ⟨digitValue c, cs.map digitValue, by rw [same, List.map_cons], fun zero => ?_⟩
  have written := digitChar_of_isDigit (shortest.isDigit c (same ▸ List.mem_cons_self))
  have zero_char : c = '0' := written.symm.trans (congrArg Nat.digitChar zero)
  have whole := shortest.leading (by rw [same, List.head?_cons, zero_char])
  rw [same] at whole
  cases whole
  rfl

/-! ## Numbers -/

/-- What may stand behind a value in written text. -/
def Closes (rest : List Char) : Prop := ∀ c ∈ rest.head?, c = ',' ∨ c = ']' ∨ c = '\x7d'

theorem Closes.ne {rest : List Char} (closes : Closes rest) {c : Char} (head : c ∈ rest.head?) :
    c.isDigit = false ∧ c ≠ '.' ∧ c ≠ 'e' ∧ c ≠ 'E' := by
  rcases closes c head with rfl | rfl | rfl <;> decide

theorem readUnsigned_toDigits (negative : Bool) (n : Nat) {rest : List Char}
    (closes : Closes rest) :
    readUnsigned negative (Nat.toDigits 10 n ++ rest) =
      some (⟨negative, (Nat.toDigits 10 n).map digitValue, none, none⟩, rest) := by
  have digits : readDigits (Nat.toDigits 10 n ++ rest) =
      ((Nat.toDigits 10 n).map digitValue, rest) :=
    readDigits_append (fun c member => Nat.isDigit_of_mem_toDigits (by decide) (by decide) member)
      fun c head => (closes.ne head).1
  have fraction : readFraction rest = some (none, rest) := by
    cases rest with
    | nil => rfl
    | cons c rest =>
        have point := (closes.ne (c := c) rfl).2.1
        rw [readFraction]
        intro _ same
        cases same
        exact point rfl
  have exponent : readExponent rest = some (none, rest) := by
    cases rest with
    | nil => rfl
    | cons c rest =>
        obtain ⟨-, -, small, capital⟩ := closes.ne (c := c) rfl
        rw [readExponent, if_neg (not_or.mpr ⟨small, capital⟩)]
  obtain ⟨first, more, same, leading⟩ := toDigits_eq_cons n
  rw [readUnsigned, digits, same]
  cases first with
  | zero => simp [leading rfl, fraction, exponent]
  | succ first => simp [fraction, exponent]

def startsNumeral (c : Char) : Bool := c == '-' || c.isDigit

theorem ne_of_startsNumeral {c other : Char} (starts : startsNumeral c = true)
    (ends : startsNumeral other = false) : c ≠ other := by
  rintro rfl
  rw [starts] at ends
  cases ends

theorem isSpace_eq_false_of_startsNumeral {c : Char} (starts : startsNumeral c = true) :
    isSpace c = false := by
  have space : c ≠ ' ' := ne_of_startsNumeral starts rfl
  have line : c ≠ '\n' := ne_of_startsNumeral starts rfl
  have tab : c ≠ '\t' := ne_of_startsNumeral starts rfl
  have carriage : c ≠ '\r' := ne_of_startsNumeral starts rfl
  simp [isSpace, space, line, tab, carriage]

/-- The text of the number is a numeral that stands for the number. -/
structure NumberReadsBack (number : Number) : Prop where
  starts : ∃ c cs, (numberText number).toList = c :: cs ∧ startsNumeral c = true
  reads : ∀ rest, Closes rest →
    ∃ numeral, readNumeral ((numberText number).toList ++ rest) = some (numeral, rest) ∧
      numeral.value? = some number

theorem exists_digit_of_toDigits (n : Nat) :
    ∃ c cs, Nat.toDigits 10 n = c :: cs ∧ c.isDigit = true := by
  cases digits : Nat.toDigits 10 n with
  | nil => exact absurd digits Nat.toDigits_ne_nil
  | cons c cs =>
      have member : c ∈ Nat.toDigits 10 n := by
        rw [digits]
        exact .head _
      exact ⟨c, cs, rfl, Nat.isDigit_of_mem_toDigits (by decide) (by decide) member⟩

theorem toList_numberText_ofNat {n : Whole} {m : Nat} (same : n.value = .ofNat m) :
    (numberText (.whole n)).toList = Nat.toDigits 10 m := by
  rw [numberText, same, toList_toString_ofNat]

theorem toList_numberText_negSucc {n : Whole} {m : Nat} (same : n.value = .negSucc m) :
    (numberText (.whole n)).toList = '-' :: Nat.toDigits 10 (m + 1) := by
  rw [numberText, same, toList_toString_negSucc]

theorem numberReadsBack_whole (n : Whole) : NumberReadsBack (.whole n) := by
  cases same : n.value with
  | ofNat m =>
      obtain ⟨c, cs, digits, digit⟩ := exists_digit_of_toDigits m
      have written := toList_numberText_ofNat same
      refine ⟨⟨c, cs, written.trans digits, by simp [startsNumeral, digit]⟩, fun rest closes => ?_⟩
      refine ⟨⟨false, (Nat.toDigits 10 m).map digitValue, none, none⟩, ?_,
        Numeral.value?_eq_whole_iff.mpr ⟨rfl, rfl, by simp, ?_⟩⟩
      · rw [written, readNumeral, readUnsigned_toDigits false m closes]
        intro tail minus
        rw [digits] at minus
        cases minus
        cases digit
      · rw [same, Numeral.signedValue, decimalValue_toDigits]
        rfl
  | negSucc m =>
      have written := toList_numberText_negSucc same
      refine ⟨⟨'-', _, written, rfl⟩, fun rest closes => ?_⟩
      refine ⟨⟨true, (Nat.toDigits 10 (m + 1)).map digitValue, none, none⟩, ?_,
        Numeral.value?_eq_whole_iff.mpr ⟨rfl, rfl, ?_, ?_⟩⟩
      · rw [written, List.cons_append, readNumeral, readUnsigned_toDigits true (m + 1) closes]
      · rw [decimalValue_toDigits]
        omega
      · rw [same, Numeral.signedValue, decimalValue_toDigits]
        rfl

end Chatflow.Json
