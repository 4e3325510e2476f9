import Chatflow.Decimal.Notation
import Mathlib.Data.List.Basic
import Mathlib.Data.List.Induction

/-!
# Written integers and numerals

Which texts are read as integers and as real numbers, and which integers are written as the text
that they were read from: those without a plus sign, without zeros in front and without a minus
sign before zero.  Real numbers are written without a plus sign and without an exponent.
-/

namespace Chatflow.Decimal

variable {c : Char} {cs digits rest : List Char} {n : Int}

/-! ## Digits -/

/-- At least one character, and decimal digits only. -/
structure IsDigits (cs : List Char) : Prop where
  ne_nil : cs ≠ []
  isDigit : ∀ c ∈ cs, c.isDigit = true

/-- The number that decimal digits make up. -/
abbrev numberOf (digits : List Char) : Nat := Nat.ofDigitChars 10 digits 0

theorem digitsValue_eq (digits : List Char) : digitsValue digits = numberOf digits := by
  rw [numberOf, Nat.ofDigitChars_eq_foldl, digitsValue]
  simp only [Nat.mul_comm]

theorem digits?_eq_some_iff {value : Nat} :
    digits? cs = some value ↔ IsDigits cs ∧ value = numberOf cs := by
  have all_iff : (!cs.isEmpty && cs.all Char.isDigit) = true ↔ IsDigits cs := by
    rw [Bool.and_eq_true, Bool.not_eq_true', List.isEmpty_eq_false_iff, List.all_eq_true]
    exact ⟨fun both => ⟨both.1, both.2⟩, fun all => ⟨all.ne_nil, all.isDigit⟩⟩
  rw [digits?]
  split
  case isTrue all => simp [all_iff.mp all, digitsValue_eq, eq_comm]
  case isFalse other => simp [mt all_iff.mpr other]

theorem IsDigits.exists_cons (all : IsDigits digits) :
    ∃ c cs, digits = c :: cs ∧ c ≠ '+' ∧ c ≠ '-' ∧ c ≠ '.' := by
  obtain ⟨c, cs, rfl⟩ := List.exists_cons_of_ne_nil all.ne_nil
  have digit := all.isDigit c List.mem_cons_self
  refine ⟨c, cs, rfl, ?_, ?_, ?_⟩ <;>
    · rintro rfl
      cases digit

theorem splitDigits_append (all : ∀ c ∈ digits, c.isDigit = true)
    (stops : ∀ c ∈ rest.head?, c.isDigit = false) :
    splitDigits (digits ++ rest) = (digits, rest) := by
  have behind : rest.takeWhile Char.isDigit = [] ∧ rest.dropWhile Char.isDigit = rest := by
    cases rest with
    | nil => exact ⟨rfl, rfl⟩
    | cons c rest => simp [stops c rfl]
  rw [splitDigits, List.takeWhile_append_of_pos all, List.dropWhile_append_of_pos all, behind.1,
    behind.2, List.append_nil]

theorem splitDigits_spec (cs : List Char) :
    cs = (splitDigits cs).1 ++ (splitDigits cs).2 ∧ ∀ c ∈ (splitDigits cs).1, c.isDigit = true :=
  ⟨List.takeWhile_append_dropWhile.symm, List.all_eq_true.mp List.all_takeWhile⟩

/-! ## Integers -/

/-- The text stands for the integer: digits, perhaps behind a sign. -/
inductive IsInteger : List Char → Int → Prop
  | unsigned {digits : List Char} (all : IsDigits digits) : IsInteger digits (numberOf digits)
  | plus {digits : List Char} (all : IsDigits digits) : IsInteger ('+' :: digits) (numberOf digits)
  | minus {digits : List Char} (all : IsDigits digits) :
      IsInteger ('-' :: digits) (-(numberOf digits : Int))

theorem splitSign_of_ne (plus : cs.head? ≠ some '+') (minus : cs.head? ≠ some '-') :
    splitSign cs = (false, cs) := by
  rw [splitSign]
  · rintro rest rfl
    exact minus rfl
  · rintro rest rfl
    exact plus rfl

theorem splitSign_cases (cs : List Char) :
    (∃ rest, cs = '-' :: rest ∧ splitSign cs = (true, rest)) ∨
      (∃ rest, cs = '+' :: rest ∧ splitSign cs = (false, rest)) ∨ splitSign cs = (false, cs) := by
  by_cases minus : cs.head? = some '-'
  · obtain ⟨rest, rfl⟩ := List.head?_eq_some_iff.mp minus
    exact .inl ⟨rest, rfl, rfl⟩
  · by_cases plus : cs.head? = some '+'
    · obtain ⟨rest, rfl⟩ := List.head?_eq_some_iff.mp plus
      exact .inr (.inl ⟨rest, rfl, rfl⟩)
    · exact .inr (.inr (splitSign_of_ne plus minus))

theorem integer?_eq (cs : List Char) :
    integer? cs = (digits? (splitSign cs).2).map fun (magnitude : Nat) =>
      if (splitSign cs).1 then -(magnitude : Int) else magnitude := by
  change Option.map _ ((digits? (splitSign cs).2).bind _) = _
  cases digits? (splitSign cs).2 <;> rfl

theorem integer?_eq_some_iff : integer? cs = some n ↔ IsInteger cs n := by
  rw [integer?_eq, Option.map_eq_some_iff]
  constructor
  · rintro ⟨value, found, rfl⟩
    rcases splitSign_cases cs with ⟨rest, rfl, same⟩ | ⟨rest, rfl, same⟩ | same <;>
      rw [same] at found ⊢ <;> obtain ⟨all, rfl⟩ := digits?_eq_some_iff.mp found
    · exact .minus all
    · exact .plus all
    · exact .unsigned all
  · intro stands
    cases stands with
    | unsigned all =>
        obtain ⟨c, rest, written, plus, minus, -⟩ := all.exists_cons
        have same : splitSign cs = (false, cs) := by
          rw [written]
          exact splitSign_of_ne (by simpa using plus) (by simpa using minus)
        rw [same]
        exact ⟨_, digits?_eq_some_iff.mpr ⟨all, rfl⟩, rfl⟩
    | plus all => exact ⟨_, digits?_eq_some_iff.mpr ⟨all, rfl⟩, rfl⟩
    | minus all => exact ⟨_, digits?_eq_some_iff.mpr ⟨all, rfl⟩, rfl⟩

theorem int64?_eq_some_iff {word : Int64} : int64? cs = some word ↔ IsInteger cs word.toInt := by
  rw [int64?, Option.bind_eq_some_iff]
  constructor
  · rintro ⟨value, read, fits⟩
    rw [int64OfInt?_eq_some_iff] at fits
    exact fits ▸ integer?_eq_some_iff.mp read
  · exact fun stands => ⟨_, integer?_eq_some_iff.mpr stands, int64OfInt?_toInt word⟩

theorem int64?_eq_none_iff : int64? cs = none ↔ ∀ word : Int64, ¬ IsInteger cs word.toInt := by
  simp only [Option.eq_none_iff_forall_not_mem, Option.mem_def, int64?_eq_some_iff]

/-! ## Shortest integers -/

/-- Digits without a zero in front, unless zero is meant. -/
structure IsShortest (digits : List Char) : Prop extends IsDigits digits where
  leading : digits.head? = some '0' → digits = ['0']

theorem isShortest_toDigits (n : Nat) : IsShortest (Nat.toDigits 10 n) where
  ne_nil := Nat.toDigits_ne_nil
  isDigit _ member := Nat.isDigit_of_mem_toDigits (by decide) (by decide) member
  leading := by
    induction n using Nat.strongRecOn with
    | ind n ih =>
        rw [Nat.toDigits_eq_if (by decide)]
        split
        case isTrue small =>
          intro first
          rw [Option.some.inj first]
        case isFalse large =>
          intro first
          rw [List.head?_append_of_ne_nil _ Nat.toDigits_ne_nil] at first
          have zero := congrArg numberOf (ih (n / 10) (by omega) first)
          rw [numberOf, Nat.ofDigitChars_ten_toDigits] at zero
          exact absurd zero (by change n / 10 ≠ 0; omega)

theorem digitChar_of_isDigit (digit : c.isDigit = true) : Nat.digitChar (c.toNat - 48) = c := by
  have each : ∀ n < 10, Nat.digitChar ((Char.ofNat (48 + n)).toNat - 48) = Char.ofNat (48 + n) := by
    decide
  rw [Char.isDigit, Bool.and_eq_true, decide_eq_true_eq, decide_eq_true_eq] at digit
  have lower : 48 ≤ c.toNat := digit.1
  have upper : c.toNat ≤ 57 := digit.2
  have found := each (c.toNat - 48) (by omega)
  rwa [Nat.add_sub_cancel' lower, Char.ofNat_toNat] at found

theorem IsShortest.toDigits_numberOf (shortest : IsShortest digits) :
    Nat.toDigits 10 (numberOf digits) = digits := by
  induction digits using List.reverseRecOn with
  | nil => exact absurd rfl shortest.ne_nil
  | append_singleton front c ih =>
      have digit := shortest.isDigit c List.mem_concat_self
      have small : c.toNat - 48 < 10 := by
        rw [Char.isDigit, Bool.and_eq_true, decide_eq_true_eq, decide_eq_true_eq] at digit
        have upper : c.toNat ≤ 57 := digit.2
        omega
      have last : Nat.toDigits 10 (c.toNat - 48) = [c] := by
        rw [Nat.toDigits_of_lt_base small, digitChar_of_isDigit digit]
      have value : numberOf (front ++ [c]) = 10 * numberOf front + (c.toNat - 48) := by
        rw [numberOf, Nat.ofDigitChars_append]
        rfl
      rw [value]
      by_cases none : front = []
      · rw [none, List.nil_append, ← last]
        exact congrArg (Nat.toDigits 10) (Nat.zero_add _)
      · have first : front.head? ≠ some '0' := by
          intro zero
          have single := shortest.leading (by rw [List.head?_append_of_ne_nil _ none, zero])
          exact none (List.append_inj_left' (single.trans (List.nil_append _).symm) rfl)
        have before : IsShortest front :=
          ⟨⟨none, fun c member => shortest.isDigit c (List.mem_append_left _ member)⟩,
            fun zero => absurd zero first⟩
        have positive : 0 < numberOf front := by
          rw [Nat.pos_iff_ne_zero]
          intro zero
          have same := ih before
          rw [zero, Nat.toDigits_zero] at same
          exact first (congrArg List.head? same.symm)
        rw [← Nat.toDigits_append_toDigits (by decide) positive small, ih before, last]

theorem toDigits_numberOf_eq_iff : Nat.toDigits 10 (numberOf digits) = digits ↔ IsShortest digits :=
  ⟨fun same => same ▸ isShortest_toDigits _, IsShortest.toDigits_numberOf⟩

/-- The texts that integers are written as. -/
inductive IsPlainInteger : List Char → Prop
  | unsigned {digits : List Char} (shortest : IsShortest digits) : IsPlainInteger digits
  | minus {digits : List Char} (shortest : IsShortest digits) (positive : digits ≠ ['0']) :
      IsPlainInteger ('-' :: digits)

theorem toList_toString_ofNat (n : Nat) :
    (toString (Int.ofNat n)).toList = Nat.toDigits 10 n := by
  change (toString n).toList = _
  rw [Nat.toString_eq_ofList_toDigits, String.toList_ofList]

theorem toList_toString_negSucc (n : Nat) :
    (toString (Int.negSucc n)).toList = '-' :: Nat.toDigits 10 (n + 1) := by
  change ("-" ++ toString (n + 1)).toList = _
  rw [Nat.toString_eq_ofList_toDigits, String.toList_append, String.toList_ofList,
    String.toList_ofList]
  rfl

theorem toList_toString (n : Int) :
    (toString n).toList =
      if n < 0 then '-' :: Nat.toDigits 10 n.natAbs else Nat.toDigits 10 n.natAbs := by
  cases n with
  | ofNat n =>
      have natural : ¬ Int.ofNat n < 0 := Int.not_lt.mpr (Int.natCast_nonneg n)
      rw [if_neg natural, toList_toString_ofNat]
      rfl
  | negSucc n =>
      rw [if_pos (Int.negSucc_lt_zero n), toList_toString_negSucc]
      rfl

/-- An integer is written as the text that it was read from if this is plain. -/
theorem IsInteger.toList_toString_eq_iff (stands : IsInteger cs n) :
    (toString n).toList = cs ↔ IsPlainInteger cs := by
  rw [toList_toString]
  cases stands with
  | unsigned all =>
      obtain ⟨c, rest, written, -, minus, -⟩ := all.exists_cons
      rw [if_neg (Int.not_lt.mpr (Int.natCast_nonneg _)), Int.natAbs_natCast,
        toDigits_numberOf_eq_iff]
      refine ⟨.unsigned, fun plain => ?_⟩
      cases plain with
      | unsigned shortest => exact shortest
      | minus => exact absurd (List.cons.inj written).1.symm minus
  | @plus digits all =>
      rw [if_neg (Int.not_lt.mpr (Int.natCast_nonneg _)), Int.natAbs_natCast]
      have sign {written : List Char} (shortest : IsShortest written) :
          written ≠ '+' :: digits := by
        rintro rfl
        exact absurd (shortest.isDigit '+' List.mem_cons_self) (by decide)
      refine iff_of_false (sign (isShortest_toDigits _)) fun plain => ?_
      cases plain with
      | unsigned shortest => exact sign shortest rfl
  | @minus digits all =>
      have sign {written : List Char} (shortest : IsShortest written) :
          written ≠ '-' :: digits := by
        rintro rfl
        exact absurd (shortest.isDigit '-' List.mem_cons_self) (by decide)
      by_cases zero : numberOf digits = 0
      · rw [zero]
        refine iff_of_false (sign (isShortest_toDigits 0)) fun plain => ?_
        cases plain with
        | unsigned shortest => exact sign shortest rfl
        | minus shortest positive =>
            have same := shortest.toDigits_numberOf
            rw [zero, Nat.toDigits_zero] at same
            exact positive same.symm
      · have negative : -(numberOf digits : Int) < 0 := by omega
        rw [if_pos negative, Int.natAbs_neg, Int.natAbs_natCast, List.cons_inj_right,
          toDigits_numberOf_eq_iff]
        constructor
        · intro shortest
          refine .minus shortest ?_
          rintro rfl
          exact zero rfl
        · intro plain
          cases plain with
          | unsigned shortest => exact absurd rfl (sign shortest)
          | minus shortest => exact shortest

/-! ## Numerals -/

/-- Nothing, or an integer behind the letter e. -/
inductive IsExponent : List Char → Prop
  | none : IsExponent []
  | some {mark : Char} {cs : List Char} {n : Int} (letter : mark = 'e' ∨ mark = 'E')
      (stands : IsInteger cs n) : IsExponent (mark :: cs)

/-- Digits, perhaps with a point before, among or behind them, and perhaps an exponent. -/
inductive IsDecimal : List Char → Prop
  | whole {digits exponent : List Char} (all : IsDigits digits) (power : IsExponent exponent) :
      IsDecimal (digits ++ exponent)
  | pointed {digits places exponent : List Char} (all : IsDigits (digits ++ places))
      (power : IsExponent exponent) : IsDecimal (digits ++ '.' :: (places ++ exponent))

/-- A decimal, or infinity or what is no number by one of their names. -/
inductive IsMagnitude (cs : List Char) : Prop
  | named (name : String.ofList (cs.map Char.toLower) ∈ ["inf", "infinity", "nan"])
  | decimal (written : IsDecimal cs)

/-- The text stands for a real number. -/
inductive IsNumeral : List Char → Prop
  | unsigned {cs : List Char} (magnitude : IsMagnitude cs) : IsNumeral cs
  | plus {cs : List Char} (magnitude : IsMagnitude cs) : IsNumeral ('+' :: cs)
  | minus {cs : List Char} (magnitude : IsMagnitude cs) : IsNumeral ('-' :: cs)

theorem exists_exponent?_iff :
    (∃ power, RealNumber.exponent? cs = some power) ↔ IsExponent cs := by
  constructor
  · rintro ⟨power, read⟩
    rw [RealNumber.exponent?.eq_def] at read
    split at read
    · exact .none
    · exact .some (.inl rfl) (integer?_eq_some_iff.mp read)
    · exact .some (.inr rfl) (integer?_eq_some_iff.mp read)
    · cases read
  · intro power
    cases power with
    | none => exact ⟨0, rfl⟩
    | some letter stands =>
        rcases letter with rfl | rfl <;> exact ⟨_, integer?_eq_some_iff.mpr stands⟩

theorem IsExponent.stops (power : IsExponent cs) :
    ∀ c ∈ cs.head?, c.isDigit = false ∧ c ≠ '.' := by
  cases power with
  | none => simp
  | some letter stands =>
      rintro c ⟨⟩
      rcases letter with rfl | rfl <;> decide

section OfDigits

variable {negative : Bool} {places more : List Char}

theorem exists_given_iff {f : Int → RealNumber} :
    (∃ x, (if digits.isEmpty && places.isEmpty then none
      else (RealNumber.exponent? rest).map f) = some x) ↔
      digits ++ places ≠ [] ∧ IsExponent rest := by
  have empty_iff : (digits.isEmpty && places.isEmpty) = true ↔ digits ++ places = [] := by
    rw [Bool.and_eq_true, List.isEmpty_iff, List.isEmpty_iff, List.append_eq_nil_iff]
  rw [← exists_exponent?_iff]
  by_cases empty : digits ++ places = []
  · simp [empty_iff.mpr empty, empty]
  · simp [mt empty_iff.mp empty, empty]

theorem exists_ofDigits?_iff_of_point (split : splitDigits cs = (digits, '.' :: more))
    (again : splitDigits more = (places, rest)) :
    (∃ x, RealNumber.ofDigits? negative cs = some x) ↔
      digits ++ places ≠ [] ∧ IsExponent rest := by
  rw [RealNumber.ofDigits?, split]
  simp only [again]
  exact exists_given_iff

theorem exists_ofDigits?_iff_of_noPoint (split : splitDigits cs = (digits, rest))
    (other : rest.head? ≠ some '.') :
    (∃ x, RealNumber.ofDigits? negative cs = some x) ↔ digits ≠ [] ∧ IsExponent rest := by
  rw [RealNumber.ofDigits?, split]
  dsimp only
  split
  case h_1 more => exact absurd rfl other
  case h_2 => exact exists_given_iff.trans (by rw [List.append_nil])

theorem exists_ofDigits?_iff :
    (∃ x, RealNumber.ofDigits? negative cs = some x) ↔ IsDecimal cs := by
  constructor
  · intro read
    obtain ⟨parts, digits⟩ := splitDigits_spec cs
    by_cases point : (splitDigits cs).2.head? = some '.'
    · obtain ⟨more, tail⟩ := List.head?_eq_some_iff.mp point
      obtain ⟨places, digit⟩ := splitDigits_spec more
      obtain ⟨some_digit, power⟩ :=
        (exists_ofDigits?_iff_of_point (Prod.ext rfl tail) rfl).mp read
      rw [parts, tail, places]
      exact .pointed ⟨some_digit, List.forall_mem_append.mpr ⟨digits, digit⟩⟩ power
    · obtain ⟨some_digit, power⟩ := (exists_ofDigits?_iff_of_noPoint rfl point).mp read
      rw [parts]
      exact .whole ⟨some_digit, digits⟩ power
  · intro written
    cases written with
    | whole all power =>
        have split := splitDigits_append all.isDigit fun c first => (power.stops c first).1
        refine (exists_ofDigits?_iff_of_noPoint split fun first => ?_).mpr ⟨all.ne_nil, power⟩
        exact (power.stops '.' first).2 rfl
    | @pointed digits places exponent all power =>
        obtain ⟨before, behind⟩ := List.forall_mem_append.mp all.isDigit
        have split : splitDigits (digits ++ '.' :: (places ++ exponent)) = (digits, _) :=
          splitDigits_append before (by rintro c ⟨⟩; rfl)
        have again := splitDigits_append behind fun c first => (power.stops c first).1
        exact (exists_ofDigits?_iff_of_point split again).mpr ⟨all.ne_nil, power⟩

end OfDigits

/-- The character stands in numerals: a letter, a digit, a sign or a point. -/
def IsNumeralChar (c : Char) : Prop := c.isAlphanum = true ∨ c ∈ ['+', '-', '.']

instance : DecidablePred IsNumeralChar := fun _ => inferInstanceAs (Decidable (_ ∨ _))

theorem isAlphanum_of_isDigit (digit : c.isDigit = true) : c.isAlphanum = true := by
  rw [Char.isAlphanum, digit, Bool.or_true]

theorem IsDigits.isNumeralChar (all : IsDigits cs) : ∀ c ∈ cs, IsNumeralChar c :=
  fun c member => .inl (isAlphanum_of_isDigit (all.isDigit c member))

theorem IsInteger.isNumeralChar (stands : IsInteger cs n) : ∀ c ∈ cs, IsNumeralChar c := by
  cases stands with
  | unsigned all => exact all.isNumeralChar
  | plus all => exact List.forall_mem_cons.mpr ⟨.inr (by decide), all.isNumeralChar⟩
  | minus all => exact List.forall_mem_cons.mpr ⟨.inr (by decide), all.isNumeralChar⟩

theorem IsExponent.isNumeralChar (power : IsExponent cs) : ∀ c ∈ cs, IsNumeralChar c := by
  cases power with
  | none => exact List.forall_mem_nil _
  | some letter stands =>
      refine List.forall_mem_cons.mpr ⟨.inl ?_, stands.isNumeralChar⟩
      rcases letter with rfl | rfl <;> decide

theorem IsDecimal.isNumeralChar (written : IsDecimal cs) : ∀ c ∈ cs, IsNumeralChar c := by
  cases written with
  | whole all power => exact List.forall_mem_append.mpr ⟨all.isNumeralChar, power.isNumeralChar⟩
  | pointed all power =>
      obtain ⟨before, behind⟩ := List.forall_mem_append.mp all.isNumeralChar
      exact List.forall_mem_append.mpr ⟨before, List.forall_mem_cons.mpr
        ⟨.inr (by decide), List.forall_mem_append.mpr ⟨behind, power.isNumeralChar⟩⟩⟩

theorem toLower_of_isDigit (digit : c.isDigit = true) : c.toLower = c := by
  rw [Char.isDigit, Bool.and_eq_true, decide_eq_true_eq, decide_eq_true_eq] at digit
  exact dif_neg fun capital => absurd (UInt32.le_trans capital.1 digit.2) (by decide)

theorem isAlphanum_of_toLower (named : c.toLower.isAlphanum = true) : c.isAlphanum = true := by
  by_cases capital : c.val ≥ 'A'.val ∧ c.val ≤ 'Z'.val
  · have upper : c.isUpper = true := decide_eq_true capital
    change (c.isUpper || c.isLower || c.isDigit) = true
    rw [upper, Bool.true_or, Bool.true_or]
  · have same : c.toLower = c := dif_neg capital
    rwa [same] at named

theorem isAlphanum_of_named
    (name : String.ofList (cs.map Char.toLower) ∈ ["inf", "infinity", "nan"]) :
    ∀ c ∈ cs, c.isAlphanum = true := by
  have letters : ∀ name ∈ ["inf", "infinity", "nan"], name.toList.all Char.isAlphanum := by decide
  have all := letters _ name
  rw [String.toList_ofList, List.all_map, List.all_eq_true] at all
  exact fun c member => isAlphanum_of_toLower (all c member)

theorem IsMagnitude.isNumeralChar (magnitude : IsMagnitude cs) : ∀ c ∈ cs, IsNumeralChar c := by
  cases magnitude with
  | named name => exact fun c member => .inl (isAlphanum_of_named name c member)
  | decimal written => exact written.isNumeralChar

theorem IsDecimal.exists_cons (written : IsDecimal cs) :
    ∃ c rest, cs = c :: rest ∧ (c.isDigit = true ∨ c = '.') := by
  cases written with
  | whole all power =>
      obtain ⟨d, digits, rfl⟩ := List.exists_cons_of_ne_nil all.ne_nil
      exact ⟨d, _, rfl, .inl (all.isDigit d List.mem_cons_self)⟩
  | @pointed digits places exponent all power =>
      cases digits with
      | nil => exact ⟨'.', _, rfl, .inr rfl⟩
      | cons d digits => exact ⟨d, _, rfl, .inl (all.isDigit d List.mem_cons_self)⟩

theorem IsMagnitude.splitSign_eq (magnitude : IsMagnitude cs) : splitSign cs = (false, cs) := by
  have unsigned {sign : Char} (isSign : sign = '+' ∨ sign = '-') : cs.head? ≠ some sign := by
    intro first
    cases magnitude with
    | named name =>
        have letter := isAlphanum_of_named name sign (List.mem_of_mem_head? first)
        rcases isSign with rfl | rfl <;> cases letter
    | decimal written =>
        obtain ⟨c, rest, rfl, digit | point⟩ := written.exists_cons <;> cases first
        · rcases isSign with rfl | rfl <;> cases digit
        · rcases isSign with rfl | rfl <;> cases point
  exact splitSign_of_ne (unsigned (.inl rfl)) (unsigned (.inr rfl))

theorem exists_ofChars?_iff : (∃ x, RealNumber.ofChars? cs = some x) ↔ IsNumeral cs := by
  have tail_iff : (∃ x, RealNumber.ofChars? cs = some x) ↔ IsMagnitude (splitSign cs).2 := by
    rw [RealNumber.ofChars?]
    dsimp only
    split
    case isTrue name =>
      refine iff_of_true ⟨_, rfl⟩ (.named ?_)
      rcases name with name | name <;> rw [name] <;> decide
    case isFalse finite =>
      split
      case isTrue name =>
        refine iff_of_true ⟨_, rfl⟩ (.named ?_)
        rw [name]
        decide
      case isFalse number =>
        refine exists_ofDigits?_iff.trans ⟨.decimal, fun magnitude => ?_⟩
        cases magnitude with
        | named name =>
            rw [List.mem_cons, List.mem_cons, List.mem_singleton, ← or_assoc] at name
            exact absurd name (not_or.mpr ⟨finite, number⟩)
        | decimal written => exact written
  rw [tail_iff]
  constructor
  · intro magnitude
    rcases splitSign_cases cs with ⟨rest, rfl, same⟩ | ⟨rest, rfl, same⟩ | same
    · exact .minus magnitude
    · exact .plus magnitude
    · rw [same] at magnitude
      exact .unsigned magnitude
  · intro numeral
    cases numeral with
    | unsigned magnitude =>
        rw [magnitude.splitSign_eq]
        exact magnitude
    | plus magnitude => exact magnitude
    | minus magnitude => exact magnitude

theorem IsNumeral.isNumeralChar (numeral : IsNumeral cs) : ∀ c ∈ cs, IsNumeralChar c := by
  cases numeral with
  | unsigned magnitude => exact magnitude.isNumeralChar
  | plus magnitude => exact List.forall_mem_cons.mpr ⟨.inr (by decide), magnitude.isNumeralChar⟩
  | minus magnitude => exact List.forall_mem_cons.mpr ⟨.inr (by decide), magnitude.isNumeralChar⟩

theorem IsInteger.isNumeral (stands : IsInteger cs n) : IsNumeral cs := by
  have magnitude {digits : List Char} (all : IsDigits digits) : IsMagnitude digits :=
    .decimal (List.append_nil digits ▸ .whole all .none)
  cases stands with
  | unsigned all => exact .unsigned (magnitude all)
  | plus all => exact .plus (magnitude all)
  | minus all => exact .minus (magnitude all)

/-! ## Written real numbers -/

/-- Neither a plus sign nor the letter of an exponent. -/
def IsPositionalChar (c : Char) : Prop := c ∉ ['+', 'e', 'E']

instance : DecidablePred IsPositionalChar := fun _ => inferInstanceAs (Decidable (¬ _))

theorem isPositionalChar_of_isDigit (digit : c.isDigit = true) : IsPositionalChar c := by
  intro mark
  simp only [List.mem_cons, List.not_mem_nil, or_false] at mark
  rcases mark with rfl | rfl | rfl <;> cases digit

theorem IsPlainInteger.isPositionalChar (plain : IsPlainInteger cs) :
    ∀ c ∈ cs, IsPositionalChar c := by
  cases plain with
  | unsigned shortest =>
      exact fun c member => isPositionalChar_of_isDigit (shortest.isDigit c member)
  | minus shortest =>
      exact List.forall_mem_cons.mpr ⟨by decide, fun c member =>
        isPositionalChar_of_isDigit (shortest.isDigit c member)⟩

theorem isPositionalChar_of_mem_positional {x : Scientific} (member : c ∈ x.positional.toList) :
    IsPositionalChar c := by
  have digits : ∀ c ∈ Nat.toDigits 10 x.digits, IsPositionalChar c := fun c member =>
    isPositionalChar_of_isDigit (Nat.isDigit_of_mem_toDigits (by decide) (by decide) member)
  have zeros (count : Nat) : ∀ c ∈ List.replicate count '0', IsPositionalChar c := by
    intro c member
    rw [List.eq_of_mem_replicate member]
    decide
  rw [Scientific.positional] at member
  split at member
  · rw [String.toList_ofList, List.mem_append] at member
    exact member.elim (digits c) (zeros _ c)
  · rw [String.toList_ofList] at member
    have padded := List.forall_mem_append.mpr
      ⟨zeros ((-x.power).toNat + 1 - (Nat.toDigits 10 x.digits).length), digits⟩
    rcases List.mem_append.mp member with whole | places
    · exact padded c (List.mem_of_mem_take whole)
    · rcases List.mem_cons.mp places with rfl | places
      · decide
      · exact padded c (List.mem_of_mem_drop places)

theorem RealNumber.isPositionalChar_of_mem_text {x : RealNumber} (member : c ∈ x.text.toList) :
    IsPositionalChar c := by
  have letters : ∀ name ∈ ["-inf", "inf", "NaN"],
      name.toList.all fun c => decide (IsPositionalChar c) := by
    decide
  have named {name : String} (known : name ∈ ["-inf", "inf", "NaN"]) (member : c ∈ name.toList) :
      IsPositionalChar c :=
    of_decide_eq_true (List.all_eq_true.mp (letters name known) c member)
  cases x with
  | finite x =>
      rw [text, String.toList_append, List.mem_append] at member
      rcases member with sign | digits
      · split at sign
        · rw [List.mem_singleton.mp sign]
          decide
        · cases sign
      · exact isPositionalChar_of_mem_positional digits
  | infinite negative => cases negative <;> exact named (by decide) member
  | notANumber => exact named (by decide) member

end Chatflow.Decimal
