import Chatflow.Instant
import Chatflow.Proofs.Calendar
import Chatflow.Proofs.Json.Numeral

/-!
# Texts of instants

An instant of the years 0 to 9999 that is not a leap second is read from its text.
-/

namespace Chatflow.Instant

open Text

/-! ## Padded numbers -/

variable {count width n : Nat} {rest : List Char} {c : Char}

@[simp] theorem length_padded (count n : Nat) : (padded count n).length = count := by
  induction count generalizing n with
  | zero => rfl
  | succ count ih => rw [padded, List.length_append, ih, List.length_singleton]

theorem exists_digit_of_mem_padded (member : c ∈ padded count n) :
    ∃ digit < 10, c = Nat.digitChar digit := by
  induction count generalizing n with
  | zero => cases member
  | succ count ih =>
      rw [padded, List.mem_append, List.mem_singleton] at member
      rcases member with earlier | rfl
      · exact ih earlier
      · exact ⟨n % 10, Nat.mod_lt n (by decide), rfl⟩

theorem isDigit_of_mem_padded (member : c ∈ padded count n) : c.isDigit = true := by
  obtain ⟨digit, small, rfl⟩ := exists_digit_of_mem_padded member
  have each : ∀ digit < 10, (Nat.digitChar digit).isDigit = true := by decide
  exact each digit small

theorem digitsValue_padded (count n : Nat) : digitsValue (padded count n) = n % 10 ^ count := by
  induction count generalizing n with
  | zero => exact (Nat.mod_one n).symm
  | succ count ih =>
      have last : (Nat.digitChar (n % 10)).toNat - '0'.toNat = n % 10 :=
        Json.digitValue_digitChar (Nat.mod_lt n (by decide))
      rw [padded, digitsValue, List.foldl_append, ← digitsValue, ih, List.foldl_cons,
        List.foldl_nil, last, Nat.pow_succ', Nat.mod_mul]
      omega

theorem exists_padded_eq_cons (positive : 0 < count) (n : Nat) :
    ∃ c cs, padded count n = c :: cs ∧ isBlank c = false ∧ c ≠ '-' ∧ c ≠ '+' := by
  cases written : padded count n with
  | nil =>
      have empty := length_padded count n
      rw [written] at empty
      exact absurd empty positive.ne
  | cons c cs =>
      have each : ∀ digit < 10, isBlank (Nat.digitChar digit) = false ∧
          Nat.digitChar digit ≠ '-' ∧ Nat.digitChar digit ≠ '+' := by decide
      obtain ⟨digit, small, rfl⟩ := exists_digit_of_mem_padded (written ▸ List.mem_cons_self)
      exact ⟨_, cs, rfl, each digit small⟩

/-! ## Reading padded numbers -/

/-- A padded number is read if it takes up the whole width or no digit stands behind it. -/
theorem readNumber_padded (positive : 0 < count) (fits : count ≤ width) (small : n < 10 ^ count)
    (stops : count = width ∨ ∀ c ∈ rest.head?, c.isDigit = false) :
    readNumber width (padded count n ++ rest) = some (n, rest) := by
  -- Either the width ends the number or the character behind it does.
  have behind : (rest.take (width - count)).takeWhile Char.isDigit = [] := by
    rcases stops with rfl | stops
    · rw [Nat.sub_self]
      rfl
    · cases rest with
      | nil => rw [List.take_nil, List.takeWhile_nil]
      | cons c rest => cases width - count <;> simp [stops c rfl]
  have digits : ((padded count n ++ rest).take width).takeWhile Char.isDigit = padded count n := by
    rw [List.take_append, length_padded, List.take_of_length_le (by rw [length_padded]; exact fits),
      List.takeWhile_append_of_pos fun c member => isDigit_of_mem_padded member, behind,
      List.append_nil]
  have filled : (padded count n).isEmpty = false := by
    obtain ⟨c, cs, written, -⟩ := exists_padded_eq_cons positive n
    rw [written]
    rfl
  simp only [readNumber, digits, filled, digitsValue_padded, Nat.mod_eq_of_lt small]
  rw [if_neg Bool.false_ne_true, List.drop_left]

theorem trimLeft_padded (positive : 0 < count) :
    trimLeft (padded count n ++ rest) = padded count n ++ rest := by
  obtain ⟨c, cs, written, visible, -⟩ := exists_padded_eq_cons positive n
  rw [written]
  exact trimLeft_eq_self visible

theorem readYear_padded (small : n < 10000) (rest : List Char) :
    readYear (padded 4 n ++ rest) = some ((n : Int), rest) := by
  have read : readNumber 4 (padded 4 n ++ rest) = some (n, rest) :=
    readNumber_padded (by decide) le_rfl small (.inl rfl)
  obtain ⟨c, cs, written, -, minus, plus⟩ := exists_padded_eq_cons (by decide : 0 < 4) n
  rw [readYear, trimLeft_padded (by decide)]
  rw [written, List.cons_append] at read ⊢
  split
  case h_1 same =>
    cases same
    exact absurd rfl minus
  case h_2 same =>
    cases same
    exact absurd rfl plus
  case h_3 =>
    rw [read]
    rfl

theorem readPart_padded {separator : Char} (visible : isBlank separator = false) (small : n < 100)
    (rest : List Char) :
    readPart separator (separator :: (padded 2 n ++ rest)) = some (n, rest) := by
  rw [readPart, trimLeft_eq_self visible]
  simp only [if_true]
  rw [trimLeft_padded (by decide), readNumber_padded (by decide) le_rfl small (.inl rfl)]

/-- The fraction is read with the zeros that it leaves out. -/
theorem readNanosecond_padded {digits : Nat} (positive : 0 < count) (fits : count ≤ 9)
    (small : digits < 10 ^ count) :
    readNanosecond ('.' :: padded count digits ++ ['Z']) =
      some (digits * 10 ^ (9 - count), ['Z']) := by
  have stops : ∀ c ∈ ['Z'].head?, c.isDigit = false := by
    rintro c ⟨⟩
    rfl
  rw [List.cons_append, readNanosecond, readNumber_padded positive fits small (.inr stops)]
  simp

theorem readNanosecond_fractionText (small : n < 1000000000) :
    readNanosecond (fractionText n ++ ['Z']) = some (n, ['Z']) := by
  rw [fractionText]
  split
  case isTrue none =>
    subst none
    rfl
  case isFalse =>
    split
    case isTrue thousandths =>
      rw [readNanosecond_padded (by decide) (by decide) (by omega)]
      congr 2
      omega
    case isFalse =>
      split
      case isTrue millionths =>
        rw [readNanosecond_padded (by decide) (by decide) (by omega)]
        congr 2
        omega
      case isFalse =>
        rw [readNanosecond_padded (by decide) (by decide) (by omega)]
        congr 2
        omega

/-! ## Whole texts -/

theorem ofChars?_padded {year month day hour minute second nanosecond : Nat} (years : year < 10000)
    (months : month < 100) (days : day < 100) (hours : hour < 100) (minutes : minute < 100)
    (seconds : second < 100) (fraction : nanosecond < 1000000000) :
    ofChars? (padded 4 year ++ '-' :: (padded 2 month ++ '-' :: (padded 2 day ++
        'T' :: (padded 2 hour ++ ':' :: (padded 2 minute ++ ':' :: (padded 2 second ++
          (fractionText nanosecond ++ ['Z']))))))) =
      ofLocal? ⟨year, month, day⟩ hour minute second nanosecond 0 := by
  have dash : isBlank '-' = false := rfl
  have colon : isBlank ':' = false := rfl
  have mark (rest : List Char) : dropDateTimeMark ('T' :: rest) = some rest := rfl
  have offset : readOffset (trimLeft ['Z']) = some (0, []) := rfl
  have readHour (rest : List Char) : readNumber 2 (padded 2 hour ++ rest) = some (hour, rest) :=
    readNumber_padded (by decide) le_rfl hours (.inl rfl)
  have two : 0 < 2 := by decide
  simp only [ofChars?, Option.bind_eq_bind, readYear_padded years, Option.bind_some,
    readPart_padded dash months, readPart_padded dash days, mark, trimLeft_padded two, readHour,
    readPart_padded colon minutes, readPart_padded colon seconds,
    readNanosecond_fractionText fraction, offset]
  rfl

/-- The time is of one of the years that have four digits, and is no leap second. -/
structure IsPlain (instant : Instant) : Prop where
  year_nonneg : 0 ≤ (Calendar.dateOf instant.day).year
  year_le : (Calendar.dateOf instant.day).year ≤ 9999
  nanosecond_lt : instant.nanosecond < 1000000000

variable {instant : Instant}

theorem textChars_eq (plain : instant.IsPlain) :
    textChars instant = padded 4 (Calendar.dateOf instant.day).year.toNat ++
      '-' :: (padded 2 (Calendar.dateOf instant.day).month ++
      '-' :: (padded 2 (Calendar.dateOf instant.day).day ++
      'T' :: (padded 2 (instant.second / 3600) ++
      ':' :: (padded 2 (instant.second / 60 % 60) ++
      ':' :: (padded 2 (instant.second % 60) ++
      (fractionText instant.nanosecond ++ ['Z'])))))) := by
  have common : ¬ 1000000000 ≤ instant.nanosecond := not_le.mpr plain.nanosecond_lt
  rw [textChars]
  simp only [yearText, plain.year_nonneg, plain.year_le, and_self, if_true, common, if_false,
    Nat.add_zero, Nat.mod_eq_of_lt plain.nanosecond_lt, List.append_assoc,
    List.cons_append]

theorem ofLocal?_dateOf (plain : instant.IsPlain) :
    ofLocal? (Calendar.dateOf instant.day) (instant.second / 3600) (instant.second / 60 % 60)
      (instant.second % 60) instant.nanosecond 0 = some instant := by
  obtain ⟨lower, upper, fraction⟩ := plain
  have second := instant.second_lt
  have years : yearRange (Calendar.dateOf instant.day).year = true := by
    rw [yearRange, decide_eq_true_eq]
    omega
  have common : ¬ instant.second % 60 = 60 := by omega
  have time : ((instant.second / 3600 : Nat) * 3600 + (instant.second / 60 % 60 : Nat) * 60 +
      (instant.second % 60 : Nat) - 0 : Int) = instant.second := by omega
  have here : (instant.second : Int) / 86400 = 0 := by omega
  have within : ((instant.second : Int) % 86400).toNat = instant.second := by omega
  rw [ofLocal?, if_pos ⟨Calendar.isDate_dateOf _, years, by omega, by omega, by omega, fraction,
    by decide⟩]
  simp only [common, if_false, time, here, within, Int.add_zero, Calendar.dayNumber_dateOf, years,
    if_true]
  exact dif_pos ⟨second, instant.nanosecond_lt⟩

theorem ofText?_text (plain : instant.IsPlain) : ofText? instant.text = some instant := by
  obtain ⟨-, month, -, day⟩ := Calendar.isDate_dateOf instant.day
  have short := Calendar.monthLength_le (Calendar.dateOf instant.day).year
    (Calendar.dateOf instant.day).month
  have second := instant.second_lt
  have year := Int.toNat_of_nonneg plain.year_nonneg
  have upper := plain.year_le
  rw [ofText?, text, String.toList_ofList, textChars_eq plain, ofChars?_padded (by omega)
    (by omega) (by omega) (by omega) (by omega) (by omega) plain.nanosecond_lt, year]
  exact ofLocal?_dateOf plain

end Chatflow.Instant
