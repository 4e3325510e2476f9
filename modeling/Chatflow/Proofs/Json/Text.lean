import Chatflow.Proofs.Json.Numeral
import Chatflow.Proofs.Json.Value

/-!
# Written values

The text that is written for a value is read as the document that says the value, provided that the
numbers in it are read back.
-/

namespace Chatflow.Json

open Document (ofValue)

/-! ## Strings -/

theorem hexValue?_hexDigit (n : Nat) : Text.hexValue? (hexDigit n) = some (n % 16) := by
  have each : ∀ d < 16, Text.hexValue? (Nat.digitChar d) = some d := by decide
  exact each (n % 16) (Nat.mod_lt n (by decide))

theorem unitValue?_hexDigits {code : Nat} (small : code < 256) :
    unitValue? '0' '0' (hexDigit (code / 16)) (hexDigit code) = some code := by
  have zero : Text.hexValue? '0' = some 0 := rfl
  have value : (code / 16) % 16 * 16 + code % 16 = code := by omega
  simp [unitValue?, zero, hexValue?_hexDigit, value]

/-- A character is written by a short escape, by its code, or as itself. -/
theorem escape_cases (c : Char) :
    (∃ e, escape c = ['\\', e] ∧ shortEscape? e = some c) ∨
    (escape c = ['\\', 'u', '0', '0', hexDigit (c.toNat / 16), hexDigit c.toNat] ∧
      c.toNat < 0x20) ∨
    (escape c = [c] ∧ c ≠ '"' ∧ c ≠ '\\' ∧ ¬ c.toNat < 0x20) := by
  by_cases short : c ∈ ['"', '\\', '\x08', '\x0c', '\n', '\r', '\t']
  · simp only [List.mem_cons, List.not_mem_nil, or_false] at short
    rcases short with rfl | rfl | rfl | rfl | rfl | rfl | rfl <;> exact .inl ⟨_, rfl, rfl⟩
  · simp only [List.mem_cons, List.not_mem_nil, or_false, not_or] at short
    obtain ⟨quote, backslash, back, feed, line, carriage, tab⟩ := short
    rw [escape, if_neg quote, if_neg backslash, if_neg back, if_neg feed, if_neg line,
      if_neg carriage, if_neg tab]
    split
    case isTrue control => exact .inr (.inl ⟨rfl, control⟩)
    case isFalse visible => exact .inr (.inr ⟨rfl, quote, backslash, visible⟩)

theorem joinParts?_unit {code : Nat} (small : code < 0xD800) (parts : List StringPart) :
    joinParts? (.unit code :: parts) = (joinParts? parts).map (Char.ofNat code :: ·) := by
  have high : isHighSurrogate code = false := by
    simp only [isHighSurrogate, Bool.and_eq_false_iff, decide_eq_false_iff_not]
    omega
  have low : isLowSurrogate code = false := by
    simp only [isLowSurrogate, Bool.and_eq_false_iff, decide_eq_false_iff_not]
    omega
  cases parts with
  | nil => simp [joinParts?, high, low]
  | cons part parts =>
      cases part with
      | plain c => simp [joinParts?, high, low]
      | unit other =>
          rw [joinParts?]
          simp [high, low]

/-- The part that is read from the written form of a character is this character. -/
theorem exists_part_of_escape (c : Char) :
    ∃ part,
      (∀ rest, readParts (escape c ++ rest) =
        (readParts rest).map fun (parts, rest) => (part :: parts, rest)) ∧
      ∀ parts, joinParts? (part :: parts) = (joinParts? parts).map (c :: ·) := by
  rcases escape_cases c with ⟨e, written, escaped⟩ | ⟨written, control⟩ |
    ⟨written, quote, backslash, visible⟩
  · refine ⟨.plain c, fun rest => ?_, fun parts => rfl⟩
    rw [written, List.cons_append, List.singleton_append, readParts]
    · rw [escaped]
      cases readParts rest <;> rfl
    · rintro _ _ _ _ _ rfl
      cases escaped
  · refine ⟨.unit c.toNat, fun rest => ?_, fun parts => ?_⟩
    · simp only [written, List.cons_append, List.nil_append]
      rw [readParts, unitValue?_hexDigits (by omega)]
      cases readParts rest <;> rfl
    · rw [joinParts?_unit (by omega), Char.ofNat_toNat]
  · refine ⟨.plain c, fun rest => ?_, fun parts => rfl⟩
    rw [written, List.singleton_append, readParts, if_neg visible]
    · exact quote
    · exact fun _ _ _ _ _ same _ => backslash same
    · exact fun _ _ same _ => backslash same

theorem exists_parts_of_escapes (cs rest : List Char) :
    ∃ parts, readParts (cs.flatMap escape ++ '"' :: rest) = some (parts, rest) ∧
      joinParts? parts = some cs := by
  induction cs with
  | nil => exact ⟨[], rfl, rfl⟩
  | cons c cs ih =>
      obtain ⟨parts, read, joined⟩ := ih
      obtain ⟨part, front, join⟩ := exists_part_of_escape c
      refine ⟨part :: parts, ?_, ?_⟩
      · rw [List.flatMap_cons, List.append_assoc, front, read]
        rfl
      · rw [join, joined]
        rfl

theorem readString_escapes (text : String) (rest : List Char) :
    readString (text.toList.flatMap escape ++ '"' :: rest) = some (some text, rest) := by
  obtain ⟨parts, read, joined⟩ := exists_parts_of_escapes text.toList rest
  simp only [readString, read, joined, Option.map_some, String.ofList_toList]

theorem writeString_append (text : String) (rest : List Char) :
    writeString text ++ rest = '"' :: (text.toList.flatMap escape ++ '"' :: rest) := by
  simp [writeString]

/-! ## Values -/

theorem skipSpace_cons {c : Char} (visible : isSpace c = false) (rest : List Char) :
    skipSpace (c :: rest) = c :: rest := by
  simp [skipSpace, visible]

/-- All numbers in the value are of the kind. -/
inductive AllNumbers (kind : Number → Prop) : Json → Prop
  | null : AllNumbers kind .null
  | bool (value : Bool) : AllNumbers kind (.bool value)
  | number {value : Number} (fits : kind value) : AllNumbers kind (.number value)
  | string (value : String) : AllNumbers kind (.string value)
  | array {items : List Json} (all : ∀ item ∈ items, AllNumbers kind item) :
      AllNumbers kind (.array items)
  | object {fields : Fields} (all : ∀ field ∈ fields, AllNumbers kind field.2) :
      AllNumbers kind (.object fields)

theorem AllNumbers.of_mem {kind : Number → Prop} {fields : Fields} {field : String × Json}
    (numbers : AllNumbers kind (.object fields)) (member : field ∈ fields) :
    AllNumbers kind field.2 := by
  cases numbers with
  | object all => exact all field member

theorem AllNumbers.get? {kind : Number → Prop} {fields : Fields} {key : String} {value : Json}
    (numbers : AllNumbers kind (.object fields)) (found : fields.get? key = some value) :
    AllNumbers kind value :=
  numbers.of_mem (Fields.mem_of_get?_eq_some found)

/-- The text of the value is read as the value, and what stands behind it is left. -/
def ReadsBack (json : Json) : Prop :=
  ∀ steps rest, 2 * (writeChars json).length ≤ steps → Closes rest →
    readValue steps (writeChars json ++ rest) = some (ofValue json, rest)

theorem readsBack_null : ReadsBack .null := by
  intro steps rest enough closes
  cases steps with
  | zero => simp [writeChars] at enough
  | succ steps => rfl

theorem readsBack_bool (value : Bool) : ReadsBack (.bool value) := by
  intro steps rest enough closes
  cases steps with
  | zero => cases value <;> simp [writeChars] at enough
  | succ steps => cases value <;> rfl

theorem readsBack_number {number : Number} (reads : NumberReadsBack number) :
    ReadsBack (.number number) := by
  intro steps rest enough closes
  obtain ⟨c, cs, written, first⟩ := reads.starts
  obtain ⟨numeral, read, value⟩ := reads.reads rest closes
  rw [writeChars, written] at enough ⊢
  rw [written] at read
  cases steps with
  | zero => simp at enough
  | succ steps =>
      rw [List.cons_append] at read ⊢
      rw [readValue, skipSpace_cons (isSpace_eq_false_of_startsNumeral first)]
      split
      case h_7 => simp only [read, Option.map_some, ofValue, value]
      all_goals
        rename_i same
        cases same
        exact absurd first (by decide)

theorem readsBack_string (text : String) : ReadsBack (.string text) := by
  intro steps rest enough closes
  cases steps with
  | zero => simp [writeChars, writeString] at enough
  | succ steps =>
      rw [writeChars, writeString_append, readValue, skipSpace_cons rfl]
      simp only [readString_escapes, Option.map_some, ofValue]

/-! ## Arrays and objects -/

theorem exists_first_of_writeChars {json : Json} (numbers : AllNumbers NumberReadsBack json) :
    ∃ c cs, writeChars json = c :: cs ∧ isSpace c = false ∧ c ≠ ']' := by
  cases numbers with
  | null => exact ⟨_, _, rfl, rfl, by decide⟩
  | bool value => cases value <;> exact ⟨_, _, rfl, rfl, by decide⟩
  | @number value reads =>
      obtain ⟨c, cs, written, first⟩ := reads.starts
      exact ⟨c, cs, by rw [writeChars, written], isSpace_eq_false_of_startsNumeral first,
        ne_of_startsNumeral first rfl⟩
  | string text => exact ⟨_, _, by rw [writeChars, writeString]; rfl, rfl, by decide⟩
  | array all => exact ⟨_, _, by rw [writeChars]; rfl, rfl, by decide⟩
  | object all => exact ⟨_, _, by rw [writeChars]; rfl, rfl, by decide⟩

-- Two steps for each character are enough: a value takes one and each of its items another.
theorem readItems_writeItems {items : List Json} {item : Json} {steps : Nat} (rest : List Char)
    (each : ∀ other ∈ item :: items, ReadsBack other)
    (enough : 2 * (writeItems (item :: items)).length + 1 ≤ steps) :
    readItems steps (writeItems (item :: items) ++ ']' :: rest) =
      some ((item :: items).map ofValue, rest) := by
  induction items generalizing item steps with
  | nil =>
      obtain ⟨steps, rfl⟩ := Nat.exists_eq_succ_of_ne_zero (by omega : steps ≠ 0)
      rw [writeItems] at enough ⊢
      have closes : Closes (']' :: rest) := by simp [Closes]
      have read := each item (.head _) steps (']' :: rest) (by omega) closes
      rw [readItems, read]
      simp only [skipSpace_cons (show isSpace ']' = false from rfl)]
      rfl
  | cons next items ih =>
      obtain ⟨steps, rfl⟩ := Nat.exists_eq_succ_of_ne_zero (by omega : steps ≠ 0)
      rw [writeItems] at enough ⊢
      simp only [List.length_append, List.length_cons] at enough
      let others := writeItems (next :: items) ++ ']' :: rest
      have closes : Closes (',' :: others) := by simp [Closes]
      have read := each item (.head _) steps (',' :: others) (by omega) closes
      have read_others := ih (fun other member => each other (.tail _ member))
        (by omega : 2 * (writeItems (next :: items)).length + 1 ≤ steps)
      rw [List.append_assoc, List.cons_append, readItems, read]
      simp only [skipSpace_cons (show isSpace ',' = false from rfl), others, read_others]
      rfl

theorem readsBack_array {items : List Json}
    (numbers : ∀ item ∈ items, AllNumbers NumberReadsBack item)
    (each : ∀ item ∈ items, ReadsBack item) : ReadsBack (.array items) := by
  intro steps rest enough closes
  simp only [writeChars, List.length_append, List.length_cons, List.length_nil] at enough
  obtain ⟨steps, rfl⟩ := Nat.exists_eq_succ_of_ne_zero (by omega : steps ≠ 0)
  rw [writeChars, List.append_assoc, List.cons_append, List.singleton_append, readValue,
    skipSpace_cons rfl]
  cases items with
  | nil =>
      simp only [writeItems, List.nil_append, skipSpace_cons (show isSpace ']' = false from rfl)]
      rfl
  | cons item items =>
      obtain ⟨c, cs, written, visible, other⟩ :=
        exists_first_of_writeChars (numbers item (.head _))
      have starts : ∃ tail, writeItems (item :: items) ++ ']' :: rest = c :: tail := by
        cases items <;> simp [writeItems, written]
      obtain ⟨tail, front⟩ := starts
      have read := readItems_writeItems rest each
        (by omega : 2 * (writeItems (item :: items)).length + 1 ≤ steps)
      rw [front] at read
      simp only [front, skipSpace_cons visible]
      split
      case h_1 same =>
        cases same
        exact absurd rfl other
      case h_2 => simp only [read, Option.map_some, ofValue, Document.ofItems_eq_map]

theorem readFields_writeFields {fields : Fields} {field : String × Json} {steps : Nat}
    (rest : List Char) (each : ∀ other ∈ field :: fields, ReadsBack other.2)
    (enough : 2 * (writeFields (field :: fields)).length + 1 ≤ steps) :
    readFields steps (writeFields (field :: fields) ++ '\x7d' :: rest) =
      some ((field :: fields).map fun field => (some field.1, ofValue field.2), rest) := by
  induction fields generalizing field steps with
  | nil =>
      obtain ⟨key, value⟩ := field
      obtain ⟨steps, rfl⟩ := Nat.exists_eq_succ_of_ne_zero (by omega : steps ≠ 0)
      rw [writeFields] at enough ⊢
      simp only [List.length_append, List.length_cons] at enough
      have closes : Closes ('\x7d' :: rest) := by simp [Closes]
      have value_reads : ReadsBack value := each _ (.head _)
      have read := value_reads steps ('\x7d' :: rest) (by omega) closes
      rw [List.append_assoc, List.cons_append, writeString_append, readFields, skipSpace_cons rfl]
      simp only [readString_escapes, skipSpace_cons (show isSpace ':' = false from rfl), read,
        skipSpace_cons (show isSpace '\x7d' = false from rfl)]
      rfl
  | cons next fields ih =>
      obtain ⟨key, value⟩ := field
      obtain ⟨steps, rfl⟩ := Nat.exists_eq_succ_of_ne_zero (by omega : steps ≠ 0)
      rw [writeFields] at enough ⊢
      simp only [List.length_append, List.length_cons] at enough
      let others := writeFields (next :: fields) ++ '\x7d' :: rest
      have closes : Closes (',' :: others) := by simp [Closes]
      have value_reads : ReadsBack value := each _ (.head _)
      have read := value_reads steps (',' :: others) (by omega) closes
      have read_others := ih (fun other member => each other (.tail _ member))
        (by omega : 2 * (writeFields (next :: fields)).length + 1 ≤ steps)
      rw [List.append_assoc, List.cons_append, List.append_assoc, List.cons_append,
        writeString_append, readFields, skipSpace_cons rfl]
      simp only [readString_escapes, skipSpace_cons (show isSpace ':' = false from rfl), read,
        skipSpace_cons (show isSpace ',' = false from rfl), others, read_others]
      rfl

theorem readsBack_object {fields : Fields} (each : ∀ field ∈ fields, ReadsBack field.2) :
    ReadsBack (.object fields) := by
  intro steps rest enough closes
  simp only [writeChars, List.length_append, List.length_cons, List.length_nil] at enough
  obtain ⟨steps, rfl⟩ := Nat.exists_eq_succ_of_ne_zero (by omega : steps ≠ 0)
  rw [writeChars, List.append_assoc, List.cons_append, List.singleton_append, readValue,
    skipSpace_cons rfl]
  cases fields with
  | nil =>
      simp only [writeFields, List.nil_append,
        skipSpace_cons (show isSpace '\x7d' = false from rfl)]
      rfl
  | cons field fields =>
      have starts : ∃ tail, writeFields (field :: fields) ++ '\x7d' :: rest = '"' :: tail := by
        cases fields <;> simp [writeFields, writeString]
      obtain ⟨tail, front⟩ := starts
      have read := readFields_writeFields rest each
        (by omega : 2 * (writeFields (field :: fields)).length + 1 ≤ steps)
      rw [front] at read
      simp only [front, skipSpace_cons (show isSpace '"' = false from rfl)]
      split
      case h_1 same => cases same
      case h_2 => simp only [read, Option.map_some, ofValue, Document.ofFields_eq_map]

theorem readsBack_of_allNumbers {json : Json} (numbers : AllNumbers NumberReadsBack json) :
    ReadsBack json := by
  induction numbers with
  | null => exact readsBack_null
  | bool value => exact readsBack_bool value
  | number reads => exact readsBack_number reads
  | string text => exact readsBack_string text
  | array all ih => exact readsBack_array all ih
  | object all ih => exact readsBack_object ih

/-- A written value is read as it was written. -/
theorem readDocument?_write {json : Json} (numbers : AllNumbers NumberReadsBack json) :
    readDocument? (write json) = some (ofValue json) := by
  have closes : Closes [] := by simp [Closes]
  have read := readsBack_of_allNumbers numbers (2 * (writeChars json).length + 2) [] (by omega)
    closes
  rw [List.append_nil] at read
  rw [readDocument?, write, String.toList_ofList]
  simp only [read]
  rfl

theorem read?_write {json : Json} (numbers : AllNumbers NumberReadsBack json) :
    read? (write json) = Document.value? Document.maxDepth (ofValue json) := by
  rw [read?, readDocument?_write numbers, Option.bind_some]

/-- The text is only looked at through its characters. -/
theorem read?_ofList (cs : List Char) :
    read? (String.ofList cs) =
      (match readValue (2 * cs.length + 2) cs with
        | some (document, rest) => if (skipSpace rest).isEmpty then some document else none
        | none => none).bind (Document.value? Document.maxDepth) := by
  rw [read?, readDocument?]
  generalize same : (String.ofList cs).toList = chars
  rw [String.toList_ofList] at same
  subst same
  rfl

/-! ## Integral documents -/

/-- Every number in the document is written as an integer in range: `Numeral.value?_eq_whole_iff`
tells which numerals these are. -/
inductive Document.Integral : Document → Prop
  | null : Integral .null
  | bool (value : Bool) : Integral (.bool value)
  | number (n : Whole) : Integral (.number (some (.whole n)))
  | string (value : Option String) : Integral (.string value)
  | array {items : List Document} (all : ∀ item ∈ items, Integral item) : Integral (.array items)
  | object {fields : List (Option String × Document)}
      (all : ∀ field ∈ fields, Integral field.2) : Integral (.object fields)

theorem AllNumbers.of_integral {document : Document} (integral : document.Integral) {depth : Nat}
    {json : Json} (read : Document.value? depth document = some json) :
    AllNumbers NumberReadsBack json := by
  induction integral generalizing depth json with
  | null =>
      cases read
      exact .null
  | bool value =>
      cases read
      exact .bool value
  | number n =>
      cases read
      exact .number (numberReadsBack_whole n)
  | string value =>
      obtain ⟨text, -, rfl⟩ := Option.map_eq_some_iff.mp read
      exact .string text
  | array all ih =>
      cases depth with
      | zero => cases read
      | succ depth =>
          obtain ⟨values, inner, rfl⟩ := Option.map_eq_some_iff.mp read
          rw [Document.itemValues?_eq_mapM, Document.mapM_eq_some_iff] at inner
          exact .array (forall_mem_of_forall₂ inner fun item member value said =>
            ih item member said)
  | object all ih =>
      cases depth with
      | zero => cases read
      | succ depth =>
          obtain ⟨values, inner, rfl⟩ := Option.map_eq_some_iff.mp read
          have each := forall_mem_of_forall₂ (Document.fieldValues?_eq_some_iff.mp inner)
            fun field member value said => ih field member said.2
          exact .object fun field member => each field (mem_of_mem_sortFields member)

end Chatflow.Json
