import Chatflow.Config.Environment
import Chatflow.Proofs.Config.Layers
import Chatflow.Proofs.Decimal.Notation
import Chatflow.Proofs.Text.Ascii

/-!
# Guessed values

A text that the environment sets is read back as it is, unless it reads as a truth value or as a
number: these are written again in their own way, numbers without plus sign and exponent.  A text
with a mark in it that no number has is read back as it is.
-/

namespace Chatflow.Config.Environment

open Decimal

variable {text arrived word name key : String} {given before after : Variables}
  {entry : String × Value} {c : Char}

/-! ## Guesses -/

def IsTruth (text : String) : Prop := ∃ value : Bool, Text.lower text = toString value

/-- What is read where the text of a variable is asked for. -/
inductive ArrivesAs (text : String) : String → Prop
  | truth {value : Bool} (means : Text.lower text = toString value) :
      ArrivesAs text (toString value)
  | integer {n : Int64} (stands : IsInteger text.toList n.toInt) :
      ArrivesAs text (toString n.toInt)
  | real {x : RealNumber} (long : ∀ n : Int64, ¬ IsInteger text.toList n.toInt)
      (read : RealNumber.ofChars? text.toList = some x) : ArrivesAs text x.text
  | plain (untrue : ¬ IsTruth text) (unread : ¬ IsNumeral text.toList) : ArrivesAs text text

/-- What is read is the text itself: truth values in lower case, plain integers, shortest real
numbers, and all that is no number. -/
inductive IsKept (text : String) : Prop
  | truth {value : Bool} (written : toString value = text)
  | integer {n : Int64} (stands : IsInteger text.toList n.toInt)
      (plain : IsPlainInteger text.toList)
  | real {x : RealNumber} (long : ∀ n : Int64, ¬ IsInteger text.toList n.toInt)
      (read : RealNumber.ofChars? text.toList = some x) (written : x.text = text)
  | plain (untrue : ¬ IsTruth text) (unread : ¬ IsNumeral text.toList)

theorem not_isTruth_of_isNumeral (numeral : IsNumeral text.toList) : ¬ IsTruth text := by
  rintro ⟨value, means⟩
  have signs : Text.IsAscii ['+', '-', '.'] := by decide
  have ascii : Text.IsAscii text.toList := fun c member =>
    (numeral.isNumeralChar c member).elim Text.toNat_lt_of_isAlphanum (signs c)
  rw [Text.lower, Text.lowerChars_of_ascii ascii] at means
  generalize text.toList = cs at numeral means
  have first : ∀ c ∈ (cs.map Char.toLower).head?, c = 't' ∨ c = 'f' := by
    rw [← String.toList_ofList (l := cs.map Char.toLower), means]
    cases value <;> rintro c ⟨⟩ <;> decide
  cases numeral with
  | plus => exact absurd (first '+' rfl) (by decide)
  | minus => exact absurd (first '-' rfl) (by decide)
  | unsigned magnitude =>
      cases magnitude with
      | named name =>
          rw [means] at name
          cases value <;> exact absurd name (by decide)
      | decimal written =>
          obtain ⟨c, rest, rfl, digit | rfl⟩ := written.exists_cons
          · have same : c.toLower = c := toLower_of_isDigit digit
            rcases first c (congrArg some same) with rfl | rfl <;> cases digit
          · exact absurd (first '.' rfl) (by decide)

theorem valueOf_of_truth {value : Bool} (means : Text.lower text = toString value) :
    valueOf text = .boolean value := by
  rw [valueOf, means]
  cases value <;> rfl

theorem valueOf_of_not_isTruth (untrue : ¬ IsTruth text) :
    valueOf text =
      match int64? text.toList with
      | some n => .integer n.toInt
      | none =>
        match RealNumber.ofChars? text.toList with
        | some x => .real x
        | none => .text text := by
  rw [valueOf]
  exact (if_neg fun means => untrue ⟨true, means⟩).trans
    (if_neg fun means => untrue ⟨false, means⟩)

theorem valueOf_of_integer {n : Int64} (stands : IsInteger text.toList n.toInt) :
    valueOf text = .integer n.toInt := by
  rw [valueOf_of_not_isTruth (not_isTruth_of_isNumeral stands.isNumeral),
    int64?_eq_some_iff.mpr stands]

theorem valueOf_of_real {x : RealNumber} (long : ∀ n : Int64, ¬ IsInteger text.toList n.toInt)
    (read : RealNumber.ofChars? text.toList = some x) : valueOf text = .real x := by
  have numeral : IsNumeral text.toList := exists_ofChars?_iff.mp ⟨x, read⟩
  rw [valueOf_of_not_isTruth (not_isTruth_of_isNumeral numeral), int64?_eq_none_iff.mpr long,
    read]

theorem valueOf_of_plain (untrue : ¬ IsTruth text) (unread : ¬ IsNumeral text.toList) :
    valueOf text = .text text := by
  have long (n : Int64) : ¬ IsInteger text.toList n.toInt := fun stands => unread stands.isNumeral
  have other : RealNumber.ofChars? text.toList = none :=
    Option.eq_none_iff_forall_not_mem.mpr fun x read => unread (exists_ofChars?_iff.mp ⟨x, read⟩)
  rw [valueOf_of_not_isTruth untrue, int64?_eq_none_iff.mpr long, other]

theorem exists_arrivesAs (text : String) : ∃ arrived, ArrivesAs text arrived := by
  by_cases truth : IsTruth text
  · obtain ⟨value, means⟩ := truth
    exact ⟨_, .truth means⟩
  · by_cases numeral : IsNumeral text.toList
    · by_cases short : ∃ n : Int64, IsInteger text.toList n.toInt
      · obtain ⟨n, stands⟩ := short
        exact ⟨_, .integer stands⟩
      · obtain ⟨x, read⟩ := exists_ofChars?_iff.mpr numeral
        exact ⟨_, .real (not_exists.mp short) read⟩
    · exact ⟨_, .plain truth numeral⟩

theorem ArrivesAs.text?_valueOf (arrives : ArrivesAs text arrived) :
    (valueOf text).text? = some arrived := by
  cases arrives with
  | @truth value means =>
      rw [valueOf_of_truth means]
      cases value <;> rfl
  | integer stands =>
      rw [valueOf_of_integer stands]
      rfl
  | real long read =>
      rw [valueOf_of_real long read]
      rfl
  | plain untrue unread =>
      rw [valueOf_of_plain untrue unread]
      rfl

theorem lower_toString (value : Bool) : Text.lower (toString value) = toString value := by
  cases value <;> decide +kernel

theorem IsKept.arrivesAs (kept : IsKept text) : ArrivesAs text text := by
  cases kept with
  | @truth value written => exact written ▸ .truth (lower_toString value)
  | integer stands plain =>
      have written := String.toList_injective (stands.toList_toString_eq_iff.mpr plain)
      have arrives := ArrivesAs.integer stands
      rwa [written] at arrives
  | real long read written =>
      have arrives := ArrivesAs.real long read
      rwa [written] at arrives
  | plain untrue unread => exact .plain untrue unread

theorem ArrivesAs.eq_iff (arrives : ArrivesAs text arrived) : arrived = text ↔ IsKept text := by
  constructor
  · intro same
    cases arrives with
    | truth means => exact .truth same
    | integer stands =>
        exact .integer stands (stands.toList_toString_eq_iff.mp (congrArg String.toList same))
    | real long read => exact .real long read same
    | plain untrue unread => exact .plain untrue unread
  · intro kept
    exact Option.some.inj (arrives.text?_valueOf.symm.trans kept.arrivesAs.text?_valueOf)

/-- A text with a mark that stands in no number, such as a colon, is read back as it is. -/
theorem isKept_of_mark (member : c ∈ text.toList) (ascii : c.toNat < 128)
    (mark : ¬ IsNumeralChar c) : IsKept text := by
  refine .plain ?_ fun numeral => mark (numeral.isNumeralChar c member)
  rintro ⟨value, means⟩
  have small : c.toLower ∈ (Text.lower text).toList := by
    rw [Text.toList_lower]
    exact Text.toLower_mem_lowerAfter ascii member []
  have letters : (toString value).toList.all Char.isAlphanum = true := by cases value <;> decide
  rw [means] at small
  exact mark (.inl (isAlphanum_of_toLower (List.all_eq_true.mp letters _ small)))

/-- Of the numerals only some without plus sign and exponent are read back as they are. -/
theorem IsKept.isPositionalChar (kept : IsKept text) (numeral : IsNumeral text.toList) :
    ∀ c ∈ text.toList, IsPositionalChar c := by
  cases kept with
  | @truth value written =>
      have truth : IsTruth text := ⟨value, written ▸ lower_toString value⟩
      exact absurd truth (not_isTruth_of_isNumeral numeral)
  | integer stands plain => exact plain.isPositionalChar
  | real long read written => exact written ▸ fun c => RealNumber.isPositionalChar_of_mem_text
  | plain untrue unread => exact absurd numeral unread

/-! ## Entries -/

theorem entries_concat (word : String) (given : Variables) (name text : String) :
    entries word (given ++ [(name, text)]) =
      match keyOf? word name with
      | some key => Value.put key (valueOf text) (entries word given)
      | none => entries word given :=
  List.foldl_concat ..

theorem exists_of_mem_entries (member : entry ∈ entries word given) :
    ∃ assignment ∈ given, keyOf? word assignment.1 = some entry.1 := by
  induction given using List.reverseRecOn with
  | nil => cases member
  | append_singleton given last ih =>
      have earlier (member : entry ∈ entries word given) :
          ∃ assignment ∈ given ++ [last], keyOf? word assignment.1 = some entry.1 := by
        obtain ⟨assignment, member, sets⟩ := ih member
        exact ⟨assignment, List.mem_append_left [last] member, sets⟩
      rw [entries_concat] at member
      split at member
      case h_1 key found =>
        rcases Value.mem_put member with rfl | member
        · exact ⟨last, List.mem_concat_self, found⟩
        · exact earlier member
      case h_2 => exact earlier member

theorem nodup_entries (word : String) (given : Variables) :
    ((entries word given).map Prod.fst).Nodup := by
  induction given using List.reverseRecOn with
  | nil => exact List.nodup_nil
  | append_singleton given last ih =>
      rw [entries_concat]
      split
      · exact Value.nodup_put ih
      · exact ih

/-- The last variable for a key counts. -/
theorem lookup_entries (found : keyOf? word name = some key)
    (last : ∀ assignment ∈ after, keyOf? word assignment.1 ≠ some key) :
    (entries word (before ++ (name, text) :: after)).lookup key = some (valueOf text) := by
  induction after using List.reverseRecOn with
  | nil => rw [entries_concat, found, Value.lookup_put, if_pos rfl]
  | append_singleton after next ih =>
      obtain ⟨last, other⟩ := List.forall_mem_append.mp last
      rw [← List.cons_append, ← List.append_assoc, entries_concat]
      split
      case h_1 otherKey sets =>
        have differs : key ≠ otherKey := by
          rintro rfl
          exact other next List.mem_cons_self sets
        rw [Value.lookup_put, if_neg differs]
        exact ih last
      case h_2 => exact ih last

theorem exists_entries_eq (found : keyOf? word name = some key)
    (last : ∀ assignment ∈ after, keyOf? word assignment.1 ≠ some key) :
    ∃ front back, entries word (before ++ (name, text) :: after) =
      front ++ (key, valueOf text) :: back ∧ key ∉ back.map Prod.fst := by
  have stands : (entries word (before ++ (name, text) :: after)).lookup key = _ :=
    lookup_entries found last
  obtain ⟨front, back, split, -⟩ := List.lookup_eq_some_iff.mp stands
  have distinct := nodup_entries word (before ++ (name, text) :: after)
  rw [split, List.map_append, List.map_cons, List.nodup_append] at distinct
  exact ⟨front, back, split, (List.nodup_cons.mp distinct.2.1).1⟩

theorem exists_entries_append_eq (found : keyOf? word name = some key) (text : String)
    (unset : ∀ assignment ∈ before ++ after, keyOf? word assignment.1 ≠ some key) :
    ∃ front back, entries word (before ++ (name, text) :: after) =
      front ++ (key, valueOf text) :: back ∧ entries word (before ++ after) = front ++ back := by
  induction after using List.reverseRecOn with
  | nil =>
      rw [List.append_nil] at unset ⊢
      have new : key ∉ (entries word before).map Prod.fst := by
        intro old
        obtain ⟨entry, member, rfl⟩ := List.mem_map.mp old
        obtain ⟨assignment, given, sets⟩ := exists_of_mem_entries member
        exact unset assignment given sets
      refine ⟨entries word before, [], ?_, (List.append_nil _).symm⟩
      rw [entries_concat, found]
      exact Value.put_of_not_mem new
  | append_singleton after next ih =>
      rw [← List.append_assoc] at unset ⊢
      obtain ⟨unset, other⟩ := List.forall_mem_append.mp unset
      obtain ⟨front, back, split, rest⟩ := ih unset
      rw [← List.cons_append, ← List.append_assoc, entries_concat, entries_concat, split, rest]
      cases sets : keyOf? word next.1 with
      | none => exact ⟨front, back, rfl, rfl⟩
      | some otherKey =>
          have differs : key ≠ otherKey := by
            rintro rfl
            exact other next List.mem_cons_self sets
          -- The later variable changes the entries before the new one or those behind it.
          simp only [Value.put_append]
          by_cases early : otherKey ∈ front.map Prod.fst
          · rw [if_pos early, if_pos early]
            exact ⟨_, back, rfl, rfl⟩
          · rw [if_neg early, if_neg early, Value.put, if_neg differs]
            exact ⟨front, _, rfl, rfl⟩

end Chatflow.Config.Environment
