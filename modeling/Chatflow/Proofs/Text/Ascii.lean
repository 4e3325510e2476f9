import Chatflow.Pattern.CharSet
import Chatflow.Text.LetterCase
import Mathlib.Data.List.Basic

/-!
# Letters of ASCII

Among the ASCII characters the writings of a letter are its capital and its small form, so that the
tables for all of Unicode agree there with the plain lower case.
-/

namespace Chatflow.Text

open Chatflow.Pattern Chatflow.Unicode LetterCase

def IsAscii (cs : List Char) : Prop := ∀ c ∈ cs, c.toNat < 128

instance (cs : List Char) : Decidable (IsAscii cs) :=
  decidable_of_iff (cs.all (·.toNat < 128) = true) (by simp [IsAscii])

variable {code other : Nat} {c d : Char} {cs : List Char}

/-! ## Code points -/

theorem toNat_lt_of_isAlphanum (named : c.isAlphanum = true) : c.toNat < 128 := by
  change (decide (65 ≤ c.toNat ∧ c.toNat ≤ 90) ||
    (decide (97 ≤ c.toNat) && decide (c.toNat ≤ 122)) ||
    (decide (48 ≤ c.toNat) && decide (c.toNat ≤ 57))) = true at named
  simp only [Bool.or_eq_true, Bool.and_eq_true, decide_eq_true_eq] at named
  omega

/-- The code point of the small form of an ASCII character. -/
def asciiSmall (code : Nat) : Nat := if 65 ≤ code ∧ code ≤ 90 then code + 32 else code

theorem toNat_toLower (c : Char) : c.toLower.toNat = asciiSmall c.toNat := by
  change Char.toNat (dite (c.val ≥ 'A'.val ∧ c.val ≤ 'Z'.val) _ _) = ite _ _ _
  have capital : (c.val ≥ 'A'.val ∧ c.val ≤ 'Z'.val) ↔ 65 ≤ c.toNat ∧ c.toNat ≤ 90 := Iff.rfl
  by_cases inside : 65 ≤ c.toNat ∧ c.toNat ≤ 90
  · rw [dif_pos (capital.mpr inside), if_pos inside]
    change (c.val + 32).toNat = _
    rw [UInt32.toNat_add]
    exact Nat.mod_eq_of_lt (by change c.toNat + 32 < _; omega)
  · rw [dif_neg (mt capital.mp inside), if_neg inside]

theorem toLower_eq_iff : d.toLower = c.toLower ↔ asciiSmall d.toNat = asciiSmall c.toNat := by
  rw [← toNat_toLower, ← toNat_toLower]
  exact ⟨congrArg Char.toNat, fun same => Char.ext (UInt32.toNat_inj.mp same)⟩

/-! ## The tables -/

theorem tail_capitals : ∀ row ∈ capitals.tail, 128 ≤ row.members.first := by
  decide +kernel

theorem tail_foldings :
    ∀ row ∈ Folding.table.tail, 128 ≤ row.members.first ∨ 128 ≤ row.distance := by
  decide +kernel

theorem smallCode_of_ascii (ascii : code < 128) : smallCode code = asciiSmall code := by
  have rows : capitals = ⟨⟨0x41, 0x5A, 1⟩, 32⟩ :: capitals.tail := rfl
  have first : (⟨0x41, 0x5A, 1⟩ : Run).contains code = true ↔ 65 ≤ code ∧ code ≤ 90 := by
    rw [Run.contains_iff]
    simp only [Nat.mod_one, and_true]
  have others : capitals.tail.find? (·.members.contains code) = none := by
    rw [List.find?_eq_none]
    intro row member inside
    have low := ((Run.contains_iff _ _).mp inside).1
    have high := tail_capitals row member
    omega
  rw [smallCode, rows, List.find?_cons, others, asciiSmall]
  by_cases inside : 65 ≤ code ∧ code ≤ 90
  · rw [first.mpr inside, if_pos inside]
    change ((code : Int) + 32).toNat = code + 32
    omega
  · rw [Bool.eq_false_iff.mpr (mt first.mp inside), if_neg inside]

theorem mem_partners_iff (row : Folding) :
    other ∈ row.partners code ↔
      row.members.contains code = true ∧ other = code + row.distance ∨
        row.members.contains other = true ∧ code = other + row.distance := by
  simp only [Folding.partners, List.mem_append, List.mem_ite_nil_right, List.mem_singleton,
    Bool.and_eq_true, decide_eq_true_eq]
  refine or_congr Iff.rfl ⟨?_, ?_⟩
  · rintro ⟨⟨small, inside⟩, rfl⟩
    exact ⟨inside, by omega⟩
  · rintro ⟨inside, rfl⟩
    simp [inside]

/-- Rows but the first lead out of ASCII. -/
theorem mem_foldPartners_iff (ascii : code < 128) (small : other < 128) :
    other ∈ foldPartners code ↔ asciiSmall other = asciiSmall code ∧ other ≠ code := by
  have rows : Folding.table = ⟨⟨0x41, 0x5A, 1⟩, 32⟩ :: Folding.table.tail := rfl
  have others : other ∉ Folding.table.tail.flatMap (·.partners code) := by
    rw [List.mem_flatMap]
    rintro ⟨row, member, partner⟩
    have outside := tail_foldings row member
    simp only [mem_partners_iff, Run.contains_iff] at partner
    omega
  rw [foldPartners, rows, List.flatMap_cons, List.mem_append, or_iff_left others, mem_partners_iff]
  simp only [Run.contains_iff, Nat.mod_one, and_true, asciiSmall]
  split <;> split <;> omega

/-! ## Characters -/

theorem smallForm_of_ascii (ascii : c.toNat < 128) : smallForm c = [c.toLower] := by
  have plain : c ≠ dottedCapitalI := by
    rintro rfl
    exact absurd ascii (by decide)
  rw [smallForm, if_neg plain, smallCode_of_ascii ascii, ← toNat_toLower, Char.ofNat_toNat]

theorem smallFormIn_of_ascii (ascii : c.toNat < 128) (before after : List Char) :
    smallFormIn before c after = [c.toLower] := by
  have plain : c ≠ capitalSigma := by
    rintro rfl
    exact absurd ascii (by decide)
  rw [smallFormIn, if_neg plain, smallForm_of_ascii ascii]

theorem contains_writings_iff (ascii : c.toNat < 128) (small : d.toNat < 128) :
    (CharSet.writings c).contains d = true ↔ d.toLower = c.toLower := by
  have single (code : Nat) : (⟨code, code, 1⟩ : Run).contains d.toNat = true ↔ code = d.toNat := by
    simp only [Run.contains_iff, Nat.mod_one, and_true]
    omega
  simp only [CharSet.contains, CharSet.writings, CharSet.containsCode, List.any_eq_true,
    List.mem_map, exists_exists_and_eq_and, single, exists_eq_right, List.mem_cons,
    mem_foldPartners_iff ascii small, toLower_eq_iff]
  by_cases same : d.toNat = c.toNat
  · simp [same]
  · simp [same]

theorem lowerAfter_of_ascii (ascii : IsAscii cs) (before : List Char) :
    lowerAfter before cs = cs.map Char.toLower := by
  induction cs generalizing before with
  | nil => rfl
  | cons c after ih =>
      rw [lowerAfter, smallFormIn_of_ascii (ascii c List.mem_cons_self),
        ih fun c member => ascii c (List.mem_cons_of_mem _ member), List.map_cons,
        List.singleton_append]

/-- The small form of an ASCII character stands in the lower case of every text with it. -/
theorem toLower_mem_lowerAfter (ascii : c.toNat < 128) (member : c ∈ cs) (before : List Char) :
    c.toLower ∈ lowerAfter before cs := by
  induction cs generalizing before with
  | nil => cases member
  | cons d after ih =>
      rw [lowerAfter, List.mem_append]
      rcases List.mem_cons.mp member with rfl | member
      · rw [smallFormIn_of_ascii ascii]
        exact .inl (List.mem_singleton_self _)
      · exact .inr (ih member _)

theorem lowerChars_of_ascii (ascii : IsAscii cs) : lowerChars cs = cs.map Char.toLower :=
  lowerAfter_of_ascii ascii []

end Chatflow.Text
