import Chatflow.Proofs.Pattern.Search
import Chatflow.Proofs.Text.Ascii

/-!
# Patterns of words

A pattern that lists words of ASCII letters and digits is read as their alternatives, letter by
letter.  Where case does not matter it is found in an ASCII text if and only if one of the words
occurs in it up to case.
-/

namespace Chatflow.Pattern

open Text (IsAscii contains_writings_iff toNat_lt_of_isAlphanum)
open Unicode (Run)

def IsPlainWord (word : String) : Prop := ∀ c ∈ word.toList, c.isAlphanum = true

instance (word : String) : Decidable (IsPlainWord word) :=
  decidable_of_iff (word.toList.all Char.isAlphanum = true) List.all_eq_true

variable {c : Char} {cs rest : List Char} {word first : String} {words others : List String}
  {steps : Nat}

/-! ## Reading words -/

theorem readAtom_letter (plain : c.isAlphanum = true) (rest : List Char) :
    readAtom false c rest = some (.letter ⟨c, false⟩, rest) := by
  unfold readAtom
  split
  all_goals first | rfl | exact absurd plain (by decide)

/-- No sign of the pattern language is a letter or a digit. -/
theorem readItems_letter (plain : c.isAlphanum = true) (steps : Nat) (items : List Expression)
    (rest : List Char) :
    readItems (steps + 1) {} items (c :: rest) =
      readItems steps {} (.letter ⟨c, false⟩ :: items) rest := by
  have unskipped : skip ({} : ReaderState).spaced (c :: rest) = c :: rest := rfl
  rw [readItems, unskipped]
  dsimp only
  split
  all_goals first | exact absurd plain (by decide) | skip
  rw [readAtom_letter plain]

def letters (cs : List Char) : List Expression := cs.map fun c => .letter ⟨c, false⟩

/-- What stands behind the first of some words that are joined. -/
def behindFirst : List String → List Char
  | [] => []
  | second :: others => '|' :: ("|".intercalate (second :: others)).toList

theorem toList_intercalate (first : String) (others : List String) :
    ("|".intercalate (first :: others)).toList = first.toList ++ behindFirst others := by
  cases others with
  | nil => simp [behindFirst]
  | cons second others =>
      simp [String.intercalate_cons_cons, String.toList_append, behindFirst]

theorem readItems_word (plain : ∀ c ∈ cs, c.isAlphanum = true) (enough : cs.length < steps)
    (items : List Expression) (others : List String) :
    readItems steps {} items (cs ++ behindFirst others) =
      some (.ofItems (items.reverse ++ letters cs), {}, behindFirst others) := by
  induction cs generalizing steps items with
  | nil =>
      obtain ⟨steps, rfl⟩ := Nat.exists_eq_add_one_of_ne_zero (Nat.ne_zero_of_lt enough)
      rw [List.nil_append, letters, List.map_nil, List.append_nil, readItems]
      cases others <;> rfl
  | cons c cs ih =>
      obtain ⟨steps, rfl⟩ := Nat.exists_eq_add_one_of_ne_zero (Nat.ne_zero_of_lt enough)
      obtain ⟨first, others_plain⟩ := List.forall_mem_cons.mp plain
      rw [List.cons_append, readItems_letter first,
        ih others_plain (Nat.lt_of_succ_lt_succ enough), letters, letters, List.map_cons,
        List.reverse_cons, List.append_assoc, List.singleton_append]

def branchOf (word : String) : Expression := .ofItems (letters word.toList)

theorem readBranches_words {branch : Expression} (plain : ∀ word ∈ others, IsPlainWord word)
    (read : readItems steps {} [] cs = some (branch, {}, behindFirst others))
    (enough : (behindFirst others).length < steps) :
    readBranches (steps + 1) {} cs = some (branch :: others.map branchOf, {}, []) := by
  induction others generalizing steps cs branch with
  | nil =>
      rw [readBranches, read]
      rfl
  | cons second others ih =>
      obtain ⟨second_plain, others_plain⟩ := List.forall_mem_cons.mp plain
      obtain ⟨steps, rfl⟩ := Nat.exists_eq_add_one_of_ne_zero (Nat.ne_zero_of_lt enough)
      have joined := toList_intercalate second others
      rw [behindFirst, joined] at read enough
      simp only [List.length_cons, List.length_append] at enough
      have enoughHere : second.toList.length < steps := by omega
      have next := readItems_word second_plain enoughHere [] others
      rw [readBranches, read]
      change Option.map _ (readBranches (steps + 1) {} _) = _
      rw [ih others_plain next (by omega)]
      rfl

/-- The words of a pattern that begins by switching case off. -/
def branchesOf (first : String) (others : List String) : List Expression :=
  .ofItems (.flags [(.caseless, true)] :: letters first.toList) :: others.map branchOf

theorem readBranches_caseless (plain : ∀ word ∈ first :: others, IsPlainWord word)
    (enough : ("|".intercalate (first :: others)).toList.length + 1 < steps) :
    readBranches (steps + 1) {} ("(?i)" ++ "|".intercalate (first :: others)).toList =
      some (branchesOf first others, {}, []) := by
  obtain ⟨first_plain, others_plain⟩ := List.forall_mem_cons.mp plain
  obtain ⟨steps, rfl⟩ := Nat.exists_eq_add_one_of_ne_zero (Nat.ne_zero_of_lt enough)
  rw [toList_intercalate, List.length_append] at enough
  rw [String.toList_append, toList_intercalate]
  refine readBranches_words others_plain ?_ (by omega)
  have switch (cs : List Char) : readItems (steps + 1) {} [] ("(?i)".toList ++ cs) =
      readItems steps {} [.flags [(.caseless, true)]] cs := rfl
  rw [switch, readItems_word first_plain (by omega)]
  rfl

/-! ## Depth -/

theorem greatestDepth_le {items : List Expression} {limit : Nat}
    (each : ∀ item ∈ items, item.depth ≤ limit) : Expression.greatestDepth items ≤ limit := by
  induction items with
  | nil => exact Nat.zero_le _
  | cons item items ih =>
      obtain ⟨first, rest⟩ := List.forall_mem_cons.mp each
      exact Nat.max_le.mpr ⟨first, ih rest⟩

theorem depth_ofItems_le {items : List Expression} {limit : Nat}
    (each : ∀ item ∈ items, item.depth ≤ limit) : (Expression.ofItems items).depth ≤ limit + 1 := by
  match items with
  | [] => exact Nat.zero_le _
  | [item] => exact Nat.le_succ_of_le (each item (by simp))
  | item :: next :: items => exact Nat.succ_le_succ (greatestDepth_le each)

theorem depth_ofBranches_le {branches : List Expression} {limit : Nat}
    (each : ∀ branch ∈ branches, branch.depth ≤ limit) :
    (Expression.ofBranches branches).depth ≤ limit + 1 := by
  match branches with
  | [] => exact Nat.succ_le_succ (Nat.zero_le _)
  | [branch] => exact Nat.le_succ_of_le (each branch (by simp))
  | branch :: next :: branches => exact Nat.succ_le_succ (greatestDepth_le each)

theorem depth_branchesOf_le (first : String) (others : List String) :
    (Expression.ofBranches (branchesOf first others)).depth ≤ depthLimit := by
  have letter (cs : List Char) : ∀ item ∈ letters cs, item.depth ≤ 0 := by
    simp [letters, Expression.depth]
  have branch : ∀ branch ∈ branchesOf first others, branch.depth ≤ 1 := by
    rw [branchesOf, List.forall_mem_cons, List.forall_mem_map]
    refine ⟨depth_ofItems_le ?_, fun word _ => depth_ofItems_le (letter _)⟩
    exact List.forall_mem_cons.mpr ⟨Nat.le_refl 0, letter _⟩
  exact Nat.le_trans (depth_ofBranches_le branch) (by decide)

/-! ## Meaning -/

theorem meaning?_ofItems (flags : Flags) (items : List Expression) :
    (Expression.ofItems items).meaning? flags =
      (Expression.meanings? flags items).map
        fun (patterns, flags) => (.sequence patterns, flags) := by
  match items with
  | [] => rfl
  | [item] =>
      rw [Expression.ofItems, Expression.meanings?]
      cases item.meaning? flags <;> rfl
  | _ :: _ :: _ => rfl

theorem meaning?_ofBranches (flags : Flags) (branches : List Expression) :
    (Expression.ofBranches branches).meaning? flags =
      (Expression.meanings? flags branches).map
        fun (patterns, flags) => (.anyOf patterns, flags) := by
  match branches with
  | [] => rfl
  | [branch] =>
      rw [Expression.ofBranches, Expression.meanings?]
      cases branch.meaning? flags <;> rfl
  | _ :: _ :: _ => rfl

theorem meanings?_cons {flags after last : Flags} {item : Expression} {items : List Expression}
    {pattern : Pattern} {patterns : List Pattern}
    (means : item.meaning? flags = some (pattern, after))
    (rest : Expression.meanings? after items = some (patterns, last)) :
    Expression.meanings? flags (item :: items) = some (pattern :: patterns, last) := by
  rw [Expression.meanings?, means]
  dsimp only
  rw [rest, Option.map_some]

/-- The flags of a pattern in which case does not matter. -/
def caselessFlags : Flags := { caseless := true }

def writingsOf (cs : List Char) : List Pattern := cs.map fun c => .chars (.writings c)

theorem meanings?_letters (cs : List Char) :
    Expression.meanings? caselessFlags (letters cs) = some (writingsOf cs, caselessFlags) := by
  induction cs with
  | nil => rfl
  | cons c cs ih => exact meanings?_cons rfl ih

theorem meanings?_branchOf (others : List String) :
    Expression.meanings? caselessFlags (others.map branchOf) =
      some (others.map fun word => .sequence (writingsOf word.toList), caselessFlags) := by
  induction others with
  | nil => rfl
  | cons word others ih =>
      refine meanings?_cons ?_ ih
      rw [branchOf, meaning?_ofItems, meanings?_letters, Option.map_some]

/-- Any one of the words, the first behind the place of a flag. -/
def wordsPattern (first : String) (others : List String) : Pattern :=
  .anyOf (.sequence (.empty :: writingsOf first.toList) ::
    others.map fun word => .sequence (writingsOf word.toList))

/-- The flag that is switched in the first word holds for the others. -/
theorem meaning?_branchesOf (first : String) (others : List String) :
    (Expression.ofBranches (branchesOf first others)).meaning? {} =
      some (wordsPattern first others, caselessFlags) := by
  have items : Expression.meanings? {} (.flags [(.caseless, true)] :: letters first.toList) =
      some (.empty :: writingsOf first.toList, caselessFlags) :=
    meanings?_cons rfl (meanings?_letters first.toList)
  have branch := meaning?_ofItems {} (.flags [(.caseless, true)] :: letters first.toList)
  rw [items, Option.map_some] at branch
  rw [meaning?_ofBranches, branchesOf, meanings?_cons branch (meanings?_branchOf others),
    Option.map_some, wordsPattern]

/-! ## Matches of words -/

variable {text : List Char} {start stop : Nat}

theorem spans_sequence_cons {pattern : Pattern} {patterns : List Pattern} :
    (sequence (pattern :: patterns)).Spans text start stop ↔
      ∃ middle, pattern.Spans text start middle ∧ (sequence patterns).Spans text middle stop := by
  cases patterns with
  | nil => simp [sequence, Spans]
  | cons next patterns => rfl

theorem spans_anyOf_iff {patterns : List Pattern} :
    (anyOf patterns).Spans text start stop ↔
      ∃ pattern ∈ patterns, pattern.Spans text start stop := by
  induction patterns with
  | nil => simp [anyOf, never, Spans]
  | cons pattern patterns ih =>
      rw [List.exists_mem_cons_iff, ← ih]
      cases patterns with
      | nil => simp [anyOf, never, Spans]
      | cons next patterns => rfl

theorem cons_prefix_drop_iff {α : Type} {item : α} {items whole : List α} {start : Nat} :
    item :: items <+: whole.drop start ↔
      whole[start]? = some item ∧ items <+: whole.drop (start + 1) := by
  rw [← List.drop_drop, ← List.head?_drop]
  cases whole.drop start with
  | nil => simp
  | cons other rest => simp [List.cons_prefix_cons, eq_comm]

theorem spans_writingsOf_iff (ascii : IsAscii cs) (text_ascii : IsAscii text) :
    (sequence (writingsOf cs)).Spans text start stop ↔
      cs.map Char.toLower <+: (text.map Char.toLower).drop start ∧ stop = start + cs.length := by
  induction cs generalizing start with
  | nil => simp [writingsOf, sequence, Spans]
  | cons c cs ih =>
      obtain ⟨first, rest⟩ := List.forall_mem_cons.mp ascii
      have meets : (∃ d, text[start]? = some d ∧ (CharSet.writings c).contains d = true) ↔
          (text.map Char.toLower)[start]? = some c.toLower := by
        rw [List.getElem?_map, Option.map_eq_some_iff]
        refine exists_congr fun d => and_congr_right fun found => ?_
        exact contains_writings_iff first (text_ascii d (List.mem_of_getElem? found))
      rw [List.map_cons, cons_prefix_drop_iff, ← meets, writingsOf, List.map_cons,
        spans_sequence_cons, ← writingsOf]
      simp only [Spans, ih rest, List.length_cons]
      constructor
      · rintro ⟨middle, ⟨met, rfl⟩, found, rfl⟩
        exact ⟨⟨met, found⟩, by omega⟩
      · rintro ⟨⟨met, found⟩, rfl⟩
        exact ⟨start + 1, ⟨met, rfl⟩, found, by omega⟩

theorem infix_iff_exists_drop {α : Type} {items whole : List α} :
    items <:+: whole ↔ ∃ start ≤ whole.length, items <+: whole.drop start := by
  rw [List.infix_iff_prefix_suffix]
  constructor
  · rintro ⟨rest, found, suffix⟩
    refine ⟨whole.length - rest.length, Nat.sub_le _ _, ?_⟩
    rwa [← List.suffix_iff_eq_drop.mp suffix]
  · rintro ⟨start, -, found⟩
    exact ⟨whole.drop start, found, List.drop_suffix start whole⟩

/-! ## Searches for words -/

theorem IsPlainWord.isAscii (plain : IsPlainWord word) : IsAscii word.toList :=
  fun c member => toNat_lt_of_isAlphanum (plain c member)

theorem read?_caseless (plain : ∀ word ∈ first :: others, IsPlainWord word) :
    Expression.read? ("(?i)" ++ "|".intercalate (first :: others)).toList =
      some (.ofBranches (branchesOf first others)) := by
  have longer : ("(?i)" ++ "|".intercalate (first :: others)).toList.length =
      ("|".intercalate (first :: others)).toList.length + 4 := by
    rw [String.toList_append, List.length_append, Nat.add_comm]
    rfl
  rw [Expression.read?, readBranches_caseless plain (by omega)]
  exact if_pos (depth_branchesOf_le first others)

/-- If the text means a pattern, that is not too large. -/
def MeansSmall (text : String) : Prop :=
  ∀ expression pattern flags, Expression.read? text.toList = some expression →
    expression.meaning? {} = some (pattern, flags) → isWithinLimit pattern = true

theorem ofText?_caseless (plain : ∀ word ∈ first :: others, IsPlainWord word)
    (small : MeansSmall ("(?i)" ++ "|".intercalate (first :: others))) :
    ofText? ("(?i)" ++ "|".intercalate (first :: others)) =
      some (wordsPattern first others) := by
  have read := read?_caseless plain
  have means := meaning?_branchesOf first others
  rw [ofText?, read]
  simp only [Option.bind_eq_bind, Option.bind_some, means]
  exact if_pos (small _ _ _ read means)

theorem spans_wordsPattern_iff {text : List Char} {start stop : Nat} :
    (wordsPattern first others).Spans text start stop ↔
      ∃ word ∈ first :: others, (sequence (writingsOf word.toList)).Spans text start stop := by
  have behind : (sequence (.empty :: writingsOf first.toList)).Spans text start stop ↔
      (sequence (writingsOf first.toList)).Spans text start stop := by
    simp [spans_sequence_cons, Spans]
  simp only [wordsPattern, spans_anyOf_iff, List.exists_mem_cons_iff, behind, List.mem_map,
    exists_exists_and_eq_and]

/-- What words up to case find in ASCII texts is one of them. -/
theorem isFoundIn_wordsPattern_iff {text : String}
    (plain : ∀ word ∈ first :: others, IsPlainWord word)
    (ascii : IsAscii text.toList) :
    (wordsPattern first others).isFoundIn text = true ↔
      ∃ word ∈ first :: others,
        word.toList.map Char.toLower <:+: text.toList.map Char.toLower := by
  have each (word : String) (member : word ∈ first :: others) :
      (∃ start stop, start ≤ text.toList.length ∧
        (sequence (writingsOf word.toList)).Spans text.toList start stop) ↔
      word.toList.map Char.toLower <:+: text.toList.map Char.toLower := by
    rw [infix_iff_exists_drop, List.length_map]
    simp [spans_writingsOf_iff (plain word member).isAscii ascii]
  simp only [isFoundIn_iff, spans_wordsPattern_iff]
  constructor
  · rintro ⟨start, stop, inside, word, member, spans⟩
    exact ⟨word, member, (each word member).mp ⟨start, stop, inside, spans⟩⟩
  · rintro ⟨word, member, occurs⟩
    obtain ⟨start, stop, inside, spans⟩ := (each word member).mpr occurs
    exact ⟨start, stop, inside, word, member, spans⟩

/-! ## Sets of single code points -/

theorem joinSpans_of_apart {codes : List Nat} (apart : codes.Pairwise fun a b => a + 1 < b) :
    joinSpans (codes.map fun code => (code, code)) = codes.map fun code => (code, code) := by
  induction apart with
  | nil => rw [List.map_nil, joinSpans]
  | @cons code codes before _ ih =>
      cases codes with
      | nil => rw [List.map_singleton, joinSpans]
      | cons next codes =>
          have gap : ¬ next ≤ code + 1 := Nat.not_le.mpr (before next List.mem_cons_self)
          rw [List.map_cons] at ih
          rw [List.map_cons, List.map_cons, joinSpans, if_neg gap, ih]

theorem spans_of_apart {codes : List Nat} (apart : codes.Pairwise fun a b => a + 1 < b)
    (inside : ∀ code ∈ codes, code ≤ 0x10FFFF) :
    (CharSet.runs (codes.map fun code => ⟨code, code, 1⟩)).spans =
      codes.map fun code => (code, code) := by
  have parts : (codes.map fun code => (⟨code, code, 1⟩ : Run)).flatMap
      (fun run => runSpans run (0, 0x10FFFF)) = codes.map fun code => (code, code) := by
    rw [List.flatMap_map, List.map_eq_flatMap]
    refine List.flatMap_congr fun code member => ?_
    simp [runSpans, Nat.min_eq_left (inside code member)]
  have sorted : (codes.map fun code => (code, code)).Pairwise
      fun a b : Span => decide (a.1 ≤ b.1) = true := by
    rw [List.pairwise_map]
    exact apart.imp fun before => decide_eq_true (Nat.le_of_succ_le (Nat.le_of_succ_le before))
  rw [CharSet.spans, parts, normalSpans, List.mergeSort_of_pairwise sorted,
    joinSpans_of_apart apart]

end Chatflow.Pattern
