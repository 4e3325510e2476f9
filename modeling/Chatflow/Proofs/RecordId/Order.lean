import Chatflow.Json.Writer
import Chatflow.Proofs.RecordId

/-!
# The order of the texts of record ids

Texts are compared byte by byte.  The digits of an id begin with the most significant one, their
number is fixed and the alphabet ascends, so the texts of ids compare as their numbers do.  An id
begins with the time at which it was made, by which records are sorted in this way.
-/

namespace Chatflow.RecordId

/-! ## Comparing -/

theorem compare_div_mod (base n m : Nat) :
    compare n m = (compare (n / base) (m / base)).then (compare (n % base) (m % base)) := by
  have left := Nat.div_add_mod n base
  have right := Nat.div_add_mod m base
  rcases Nat.lt_trichotomy (n / base) (m / base) with less | same | more
  · rw [Nat.compare_eq_lt.mpr less]
    exact Nat.compare_eq_lt.mpr (Nat.lt_of_div_lt_div less)
  · rw [same] at left
    have less_iff : n < m ↔ n % base < m % base := by omega
    have more_iff : m < n ↔ m % base < n % base := by omega
    rw [Nat.compare_eq_eq.mpr same, Ordering.eq_then]
    simp only [Nat.compare_eq_ite_lt, less_iff, more_iff]
  · rw [Nat.compare_eq_gt.mpr more]
    exact Nat.compare_eq_gt.mpr (Nat.lt_of_div_lt_div more)

theorem compare_append {α : Type} [Ord α] {left right : List α} (same : left.length = right.length)
    (more others : List α) :
    compare (left ++ more) (right ++ others) = (compare left right).then (compare more others) := by
  induction left generalizing right with
  | nil =>
      rw [List.eq_nil_of_length_eq_zero same.symm]
      rfl
  | cons x left ih =>
      obtain ⟨y, right, rfl⟩ := List.exists_cons_of_length_eq_add_one same.symm
      rw [List.cons_append, List.cons_append, List.compare_cons_cons, List.compare_cons_cons,
        ih (Nat.succ.inj same), Ordering.then_assoc]

/-! ## Bytes -/

def bytesOf (text : String) : List UInt8 := text.toByteArray.data.toList

theorem bytesOf_ofList (cs : List Char) :
    bytesOf (String.ofList cs) = cs.flatMap String.utf8EncodeChar := by
  rw [bytesOf, String.toByteArray_ofList, List.utf8Encode, List.data_toByteArray]

theorem bytesOf_append (text more : String) :
    bytesOf (text ++ more) = bytesOf text ++ bytesOf more := by
  rw [bytesOf, String.toByteArray_append, ByteArray.data_append, Array.toList_append]
  rfl

theorem compare_bytesOf_append_left (start text other : String) :
    compare (bytesOf (start ++ text)) (bytesOf (start ++ other)) =
      compare (bytesOf text) (bytesOf other) := by
  rw [bytesOf_append, bytesOf_append, compare_append rfl, Std.ReflOrd.compare_self,
    Ordering.eq_then]

/-! ## Digits -/

theorem length_bytesOf_digitsOf (count n : Nat) :
    (bytesOf (String.ofList (digitsOf count n))).length = count := by
  have size : (String.ofList (digitsOf count n)).utf8ByteSize = count := by
    rw [String.utf8ByteSize_ofList, utf8Len_digitsOf]
  exact size

theorem compare_bytesOf_digitChar {digit other : Nat} (small : digit < 32) (less : other < 32) :
    compare (String.utf8EncodeChar (digitChar digit)) (String.utf8EncodeChar (digitChar other)) =
      compare digit other := by
  have each : ∀ digit < 32, ∀ other < 32,
      compare (String.utf8EncodeChar (digitChar digit)) (String.utf8EncodeChar (digitChar other)) =
        compare digit other := by decide +kernel
  exact each digit small other less

theorem compare_bytesOf_digitsOf (count n m : Nat) :
    compare (bytesOf (String.ofList (digitsOf count n)))
        (bytesOf (String.ofList (digitsOf count m))) =
      compare (n % 32 ^ count) (m % 32 ^ count) := by
  induction count generalizing n m with
  | zero => simp [digitsOf, Nat.mod_one]
  | succ count ih =>
      have lengths := (length_bytesOf_digitsOf count (n / 32)).trans
        (length_bytesOf_digitsOf count (m / 32)).symm
      have last (n : Nat) : bytesOf (String.ofList (digitsOf (count + 1) n)) =
          bytesOf (String.ofList (digitsOf count (n / 32))) ++
            String.utf8EncodeChar (digitChar (n % 32)) := by
        rw [digitsOf, String.ofList_append, bytesOf_append, bytesOf_ofList [_],
          List.flatMap_singleton]
      have quotient (n : Nat) : n % 32 ^ (count + 1) / 32 = n / 32 % 32 ^ count := by
        rw [Nat.pow_succ', Nat.mod_mul_right_div_self]
      have remainder (n : Nat) : n % 32 ^ (count + 1) % 32 = n % 32 :=
        Nat.mod_mod_of_dvd n ⟨32 ^ count, Nat.pow_succ'⟩
      rw [last, last, compare_append lengths, ih,
        compare_bytesOf_digitChar (Nat.mod_lt n (by decide)) (Nat.mod_lt m (by decide)),
        compare_div_mod 32 (n % 32 ^ (count + 1)), quotient, quotient, remainder, remainder]

/-! ## Texts -/

variable {kind : RecordKind}

theorem compare_bytesOf_bare (id other : RecordId kind) :
    compare (bytesOf id.bare) (bytesOf other.bare) = compare id.value.val other.value.val := by
  -- All ids have fewer than 131 bits, and 26 digits hold as many.
  have small (id : RecordId kind) : id.value.val < 32 ^ width := id.value.isLt.trans (by decide)
  rw [bare, bare, compare_bytesOf_digitsOf, Nat.mod_eq_of_lt (small id),
    Nat.mod_eq_of_lt (small other)]

/-- The written JSON text is the bare text in quotes, since no digit is escaped. -/
theorem write_toJson (id : RecordId kind) : id.toJson.write = "\"" ++ id.bare ++ "\"" := by
  have plain (count n : Nat) : (digitsOf count n).flatMap Json.escape = digitsOf count n := by
    induction count generalizing n with
    | zero => rfl
    | succ count ih =>
        have each : ∀ digit < 32, Json.escape (digitChar digit) = [digitChar digit] := by decide
        rw [digitsOf, List.flatMap_append, ih, List.flatMap_singleton,
          each _ (Nat.mod_lt n (by decide))]
  have quote : "\"".toList = ['"'] := rfl
  rw [← String.toList_inj, toJson, Json.write, String.toList_ofList, Json.writeChars,
    Json.writeString, String.toList_append, String.toList_append, quote, List.singleton_append,
    bare, String.toList_ofList, plain]

theorem compare_bytesOf_display (id other : RecordId kind) :
    compare (bytesOf id.display) (bytesOf other.display) =
      compare id.value.val other.value.val := by
  rw [display, display, compare_bytesOf_append_left, compare_bytesOf_bare]

theorem compare_bytesOf_write (id other : RecordId kind) :
    compare (bytesOf id.toJson.write) (bytesOf other.toJson.write) =
      compare id.value.val other.value.val := by
  have lengths : (bytesOf id.bare).length = (bytesOf other.bare).length :=
    (length_bytesOf_digitsOf _ _).trans (length_bytesOf_digitsOf _ _).symm
  rw [write_toJson, write_toJson, String.append_assoc, String.append_assoc,
    compare_bytesOf_append_left, bytesOf_append, bytesOf_append, compare_append lengths,
    Std.ReflOrd.compare_self, Ordering.then_eq, compare_bytesOf_bare]

/-! ## Times -/

/-- The milliseconds from the start of 1970 to the time at which the id was made, the first 48
bits. -/
def milliseconds (id : RecordId kind) : Nat := id.value.val / 2 ^ 80

/-- The bits behind the time, which are random. -/
def entropy (id : RecordId kind) : Nat := id.value.val % 2 ^ 80

theorem compare_milliseconds (id other : RecordId kind) :
    compare id.value.val other.value.val =
      (compare id.milliseconds other.milliseconds).then (compare id.entropy other.entropy) :=
  compare_div_mod (2 ^ 80) id.value.val other.value.val

/-- The display texts, the bare texts and the written texts of two ids of a kind compare byte by
byte as the numbers of the ids do.  So records sort by the time at which they were made, and only
those of the same millisecond by the bits behind it. -/
theorem texts_sort_as_ids (id other : RecordId kind) :
    compare (bytesOf id.display) (bytesOf other.display) =
        compare id.value.val other.value.val ∧
      compare (bytesOf id.bare) (bytesOf other.bare) = compare id.value.val other.value.val ∧
      compare (bytesOf id.toJson.write) (bytesOf other.toJson.write) =
        compare id.value.val other.value.val ∧
      compare id.value.val other.value.val =
        (compare id.milliseconds other.milliseconds).then (compare id.entropy other.entropy) :=
  ⟨compare_bytesOf_display id other, compare_bytesOf_bare id other,
    compare_bytesOf_write id other, compare_milliseconds id other⟩

end Chatflow.RecordId
