import Chatflow.Proofs.RecordId
import Chatflow.Proofs.Text.Ascii
import Mathlib.Data.List.Forall2
import Mathlib.Data.Nat.Digits.Defs

/-!
# Texts that are read as record ids

A text is read as an id exactly if, without the label of the kind, it has 26 bytes that are all
digits of base 32, with capital or small letters.  The id is the number that the digits make up,
without what exceeds 128 bits.  Texts of different ids differ, and the display text of one kind is
no text of another.
-/

namespace Chatflow.RecordId

open List (Forall₂)

variable {kind other : RecordKind} {c d : Char} {digit value number : Nat} {cs ds : List Char}
  {text rest : String}

/-! ## Digits -/

/-- The character is a digit of the alphabet, with a capital or a small letter. -/
def IsDigit (c : Char) (digit : Nat) : Prop := alphabet[digit]? = some c.toUpper

/-- A decimal digit or a letter, but none of the four letters that are left out. -/
def IsDigitChar (c : Char) : Prop := c.isAlphanum = true ∧ c.toUpper ∉ ['I', 'L', 'O', 'U']

instance (c : Char) : Decidable (IsDigitChar c) := inferInstanceAs (Decidable (_ ∧ _))

theorem toUpper_cases (c : Char) :
    (¬ ('a' ≤ c ∧ c ≤ 'z') ∧ c.toUpper = c) ∨ ∃ letter < 26, c = Char.ofNat (97 + letter) := by
  by_cases small : 'a' ≤ c ∧ c ≤ 'z'
  · have lower : 97 ≤ c.toNat := small.1
    have upper : c.toNat ≤ 122 := small.2
    refine .inr ⟨c.toNat - 97, by omega, ?_⟩
    rw [Nat.add_sub_cancel' lower, Char.ofNat_toNat]
  · exact .inl ⟨small, dif_neg small⟩

theorem utf8Size_toUpper (c : Char) : c.toUpper.utf8Size = c.utf8Size := by
  rcases toUpper_cases c with ⟨-, same⟩ | ⟨letter, less, rfl⟩
  · rw [same]
  · have each : ∀ letter < 26, (Char.ofNat (97 + letter)).toUpper.utf8Size =
        (Char.ofNat (97 + letter)).utf8Size := by decide
    exact each letter less

theorem digitValue?_eq (c : Char) : digitValue? c = alphabet.idxOf? c.toUpper := by
  rcases toUpper_cases c with ⟨large, same⟩ | ⟨letter, less, rfl⟩
  · rw [digitValue?, if_neg large, same]
  · have each : ∀ letter < 26, digitValue? (Char.ofNat (97 + letter)) =
        alphabet.idxOf? (Char.ofNat (97 + letter)).toUpper := by decide
    exact each letter less

theorem digitValue?_eq_some_iff : digitValue? c = some digit ↔ IsDigit c digit := by
  have distinct : alphabet.Nodup := by decide
  rw [digitValue?_eq, List.idxOf?_eq_some_iff, IsDigit, List.getElem?_eq_some_iff]
  refine exists_congr fun inside => and_iff_left_of_imp fun found earlier less same => ?_
  exact less.ne ((List.getElem_inj distinct).mp (same.trans found.symm))

theorem exists_isDigit_iff : (∃ digit, IsDigit c digit) ↔ IsDigitChar c := by
  have ascii : ∀ code < 128, (Char.ofNat code).toUpper ∈ alphabet ↔
      IsDigitChar (Char.ofNat code) := by decide +kernel
  have inside (small : c.toNat < 128) : c.toUpper ∈ alphabet ↔ IsDigitChar c := by
    have here := ascii c.toNat small
    rwa [Char.ofNat_toNat] at here
  refine List.mem_iff_getElem?.symm.trans ⟨fun member => ?_, fun named => ?_⟩
  · rcases toUpper_cases c with ⟨-, same⟩ | ⟨letter, less, rfl⟩
    · have small : alphabet.all (fun c => c.toNat < 128) = true := rfl
      have less := List.all_eq_true.mp small c (same ▸ member)
      exact (inside (decide_eq_true_iff.mp less)).mp member
    · have each : ∀ letter < 26, (Char.ofNat (97 + letter)).toNat < 128 := by decide
      exact (inside (each letter less)).mp member
  · exact (inside (Text.toNat_lt_of_isAlphanum named.1)).mpr named

/-! ## Numbers -/

theorem valueAfter?_eq_some_iff :
    valueAfter? value cs = some number ↔ ∃ digits, Forall₂ IsDigit cs digits ∧
      number = value * 32 ^ digits.length + Nat.ofDigits 32 digits.reverse := by
  induction cs generalizing value with
  | nil => simp [valueAfter?, eq_comm]
  | cons c cs ih =>
      simp only [valueAfter?, Option.bind_eq_some_iff, digitValue?_eq_some_iff, ih,
        List.forall₂_cons_left_iff]
      constructor
      · rintro ⟨digit, first, digits, others, rfl⟩
        refine ⟨digit :: digits, ⟨digit, digits, first, others, rfl⟩, ?_⟩
        rw [Nat.ofDigits_reverse_cons, List.length_cons, Nat.pow_succ]
        ring
      · rintro ⟨_, ⟨digit, digits, first, others, rfl⟩, rfl⟩
        refine ⟨digit, first, digits, others, ?_⟩
        rw [Nat.ofDigits_reverse_cons, List.length_cons, Nat.pow_succ]
        ring

theorem valueAfter?_eq_none_iff : valueAfter? value cs = none ↔ ∃ c ∈ cs, ¬ IsDigitChar c := by
  induction cs generalizing value with
  | nil => simp [valueAfter?]
  | cons c cs ih =>
      rw [valueAfter?, List.exists_mem_cons_iff, ← exists_isDigit_iff]
      cases found : digitValue? c with
      | none =>
          have none : ¬ ∃ digit, IsDigit c digit := by
            rintro ⟨digit, is⟩
            rw [digitValue?_eq_some_iff.mpr is] at found
            cases found
          simp [none]
      | some digit =>
          have some : ∃ digit, IsDigit c digit := ⟨digit, digitValue?_eq_some_iff.mp found⟩
          rw [Option.bind_some, ih]
          simp [some]

/-- Small letters count as capital ones. -/
theorem valueAfter?_eq_of_toUpper (same : cs.map Char.toUpper = ds.map Char.toUpper) :
    valueAfter? value cs = valueAfter? value ds := by
  induction cs generalizing value ds with
  | nil =>
      rw [List.map_nil, eq_comm, List.map_eq_nil_iff] at same
      rw [same]
  | cons c cs ih =>
      obtain ⟨d, ds, rfl, first, others⟩ := List.map_eq_cons_iff.mp same.symm
      rw [valueAfter?, valueAfter?, digitValue?_eq, digitValue?_eq, first]
      exact congrArg _ (funext fun digit => ih others.symm)

/-! ## Bare texts -/

theorem ofBare_cases (kind : RecordKind) (text : String) :
    (text.utf8ByteSize ≠ width ∧
      (ofBare text : Except ParseCause (RecordId kind)) = .error .invalidLength) ∨
    (text.utf8ByteSize = width ∧ valueAfter? 0 text.toList = none ∧
      (ofBare text : Except ParseCause (RecordId kind)) = .error .invalidCharacter) ∨
    ∃ number, text.utf8ByteSize = width ∧ valueAfter? 0 text.toList = some number ∧
      (ofBare text : Except ParseCause (RecordId kind)) = .ok (ofNat number) := by
  rw [ofBare]
  by_cases right : text.utf8ByteSize = width
  · rw [if_neg (not_not.mpr right)]
    cases found : valueAfter? 0 text.toList with
    | none => exact .inr (.inl ⟨right, rfl, rfl⟩)
    | some number => exact .inr (.inr ⟨number, right, rfl, rfl⟩)
  · exact .inl ⟨right, if_pos right⟩

theorem ofBare_eq_invalidLength_iff :
    (ofBare text : Except ParseCause (RecordId kind)) = .error .invalidLength ↔
      text.utf8ByteSize ≠ width := by
  rcases ofBare_cases kind text with ⟨wrong, same⟩ | ⟨right, -, same⟩ | ⟨number, right, -, same⟩
  · simp [same, wrong]
  · simp [same, right]
  · simp [same, right]

theorem ofBare_eq_invalidCharacter_iff :
    (ofBare text : Except ParseCause (RecordId kind)) = .error .invalidCharacter ↔
      text.utf8ByteSize = width ∧ ∃ c ∈ text.toList, ¬ IsDigitChar c := by
  have unread : valueAfter? 0 text.toList = none ↔ _ := valueAfter?_eq_none_iff
  rw [← unread]
  rcases ofBare_cases kind text with ⟨wrong, same⟩ | ⟨right, none, same⟩ |
    ⟨number, right, some, same⟩
  · simp [same, wrong]
  · simp [same, right, none]
  · simp [same, some]

theorem ofNat_eq_iff {id : RecordId kind} :
    ofNat number = id ↔ id.value.val = number % 2 ^ 128 := by
  obtain ⟨value⟩ := id
  rw [ofNat, RecordId.mk.injEq, Fin.ext_iff]
  exact eq_comm

theorem ofBare_eq_ok_iff {id : RecordId kind} :
    ofBare text = .ok id ↔ text.utf8ByteSize = width ∧ ∃ digits,
      Forall₂ IsDigit text.toList digits ∧
        id.value.val = Nat.ofDigits 32 digits.reverse % 2 ^ 128 := by
  have numbers : (∃ digits, Forall₂ IsDigit text.toList digits ∧
      id.value.val = Nat.ofDigits 32 digits.reverse % 2 ^ 128) ↔
      ∃ number, valueAfter? 0 text.toList = some number ∧ ofNat number = id := by
    simp only [valueAfter?_eq_some_iff, ofNat_eq_iff, Nat.zero_mul, Nat.zero_add]
    constructor
    · rintro ⟨digits, each, value⟩
      exact ⟨_, ⟨digits, each, rfl⟩, value⟩
    · rintro ⟨_, ⟨digits, each, rfl⟩, value⟩
      exact ⟨digits, each, value⟩
  rw [numbers]
  rcases ofBare_cases kind text with ⟨wrong, same⟩ | ⟨right, none, same⟩ |
    ⟨number, right, some, same⟩
  · simp [same, wrong]
  · simp [same, none]
  · simp [same, right, some]

theorem exists_ofBare_eq_ok_iff :
    (∃ id : RecordId kind, ofBare text = .ok id) ↔
      text.utf8ByteSize = width ∧ ∀ c ∈ text.toList, IsDigitChar c := by
  have read : (∀ c ∈ text.toList, IsDigitChar c) ↔ valueAfter? 0 text.toList ≠ none := by
    simp [valueAfter?_eq_none_iff]
  rw [read]
  rcases ofBare_cases kind text with ⟨wrong, same⟩ | ⟨right, none, same⟩ |
    ⟨number, right, some, same⟩
  · simp [same, wrong]
  · simp [same, none]
  · simp [same, right, some]

theorem utf8ByteSize_eq_of_toUpper
    (same : text.toList.map Char.toUpper = rest.toList.map Char.toUpper) :
    text.utf8ByteSize = rest.utf8ByteSize := by
  have upper (cs : List Char) : String.utf8Len (cs.map Char.toUpper) = String.utf8Len cs := by
    induction cs with
    | nil => rfl
    | cons c cs ih => rw [List.map_cons, String.utf8Len_cons, String.utf8Len_cons, ih,
        utf8Size_toUpper]
  rw [← String.utf8Len_toList, ← String.utf8Len_toList, ← upper, same, upper]

theorem ofBare_eq_of_toUpper
    (same : text.toList.map Char.toUpper = rest.toList.map Char.toUpper) :
    (ofBare text : Except ParseCause (RecordId kind)) = ofBare rest := by
  rw [ofBare, ofBare, utf8ByteSize_eq_of_toUpper same, valueAfter?_eq_of_toUpper same]

theorem isDigitChar_of_mem_digitsOf {count n : Nat} (member : c ∈ digitsOf count n) :
    IsDigitChar c := by
  induction count generalizing n with
  | zero => cases member
  | succ count ih =>
      rw [digitsOf, List.mem_append, List.mem_singleton] at member
      rcases member with earlier | rfl
      · exact ih earlier
      · have each : ∀ digit < 32, IsDigitChar (digitChar digit) := by decide
        exact each (n % 32) (Nat.mod_lt n (by decide))

/-! ## Labels -/

/-- The rest is what stands behind the label of the kind, or the whole text if it does not begin
with the label. -/
inductive Unlabeled (kind : RecordKind) : String → String → Prop
  | labeled (rest : String) : Unlabeled kind (kind.label ++ rest) rest
  | bare {text : String} (other : ∀ rest, text ≠ kind.label ++ rest) : Unlabeled kind text text

theorem Unlabeled.dropLabel_eq (unlabeled : Unlabeled kind text rest) :
    dropLabel kind text = rest := by
  cases unlabeled with
  | labeled rest =>
      have begins : kind.label.toList.isPrefixOf (kind.label ++ rest).toList = true := by
        rw [String.toList_append, List.isPrefixOf_iff_prefix]
        exact List.prefix_append _ _
      refine (if_pos begins).trans ?_
      rw [String.toList_append, List.drop_left, String.ofList_toList]
  | bare other =>
      have differs : ¬ kind.label.toList.isPrefixOf text.toList = true := by
        rw [List.isPrefixOf_iff_prefix]
        rintro ⟨rest, same⟩
        refine other (.ofList rest) (String.toList_inj.mp ?_)
        rw [String.toList_append, String.toList_ofList, same]
      exact if_neg differs

theorem exists_unlabeled (kind : RecordKind) (text : String) :
    ∃ rest, Unlabeled kind text rest := by
  by_cases labeled : ∃ rest, text = kind.label ++ rest
  · obtain ⟨rest, rfl⟩ := labeled
    exact ⟨rest, .labeled rest⟩
  · exact ⟨text, .bare (not_exists.mp labeled)⟩

theorem Unlabeled.parse_eq (unlabeled : Unlabeled kind text rest) :
    parse kind text = (ofBare rest).mapError (⟨kind, ·⟩) := by
  rw [parse, unlabeled.dropLabel_eq]

theorem Unlabeled.parse_eq_ok_iff (unlabeled : Unlabeled kind text rest) {id : RecordId kind} :
    parse kind text = .ok id ↔ ofBare rest = .ok id := by
  rw [unlabeled.parse_eq]
  cases (ofBare rest : Except ParseCause (RecordId kind)) <;> simp [Except.mapError]

theorem Unlabeled.parse_eq_error_iff (unlabeled : Unlabeled kind text rest) {cause : ParseCause} :
    parse kind text = .error ⟨kind, cause⟩ ↔
      (ofBare rest : Except ParseCause (RecordId kind)) = .error cause := by
  rw [unlabeled.parse_eq]
  cases (ofBare rest : Except ParseCause (RecordId kind)) <;> simp [Except.mapError]

/-- A bare text does not begin with a label, since no digit is an underscore. -/
theorem unlabeled_bare (id : RecordId kind) : Unlabeled kind id.bare id.bare := by
  refine .bare fun rest same => ?_
  have underscore : '_' ∈ kind.label.toList := by cases kind <;> decide
  have member : '_' ∈ id.bare.toList := by
    rw [same, String.toList_append]
    exact List.mem_append_left _ underscore
  rw [RecordId.bare, String.toList_ofList] at member
  exact absurd (isDigitChar_of_mem_digitsOf member) (by decide)

/-- The labels begin with different letters. -/
theorem unlabeled_display_of_ne (differs : kind ≠ other) (id : RecordId kind) :
    Unlabeled other id.display id.display := by
  refine .bare fun rest same => differs ?_
  have first := congrArg (fun text => text.toList.head?) same
  simp only [display, String.toList_append] at first
  cases kind <;> cases other <;> first | rfl | cases first

theorem parse_display (id : RecordId kind) : parse kind id.display = .ok id := by
  rw [display, (Unlabeled.labeled id.bare).parse_eq, ofBare_bare]
  rfl

theorem parse_bare (id : RecordId kind) : parse kind id.bare = .ok id := by
  rw [(unlabeled_bare id).parse_eq, ofBare_bare]
  rfl

theorem display_injective : Function.Injective (display : RecordId kind → String) := by
  intro id other same
  have read := id.parse_display
  rw [same, other.parse_display] at read
  exact (Except.ok.inj read).symm

theorem bare_injective : Function.Injective (bare : RecordId kind → String) := by
  intro id other same
  have read := id.parse_bare
  rw [same, other.parse_bare] at read
  exact (Except.ok.inj read).symm

theorem parse_display_of_ne (differs : kind ≠ other) (id : RecordId kind) :
    parse other id.display = .error ⟨other, .invalidLength⟩ := by
  have longer : id.display.utf8ByteSize ≠ width := by
    rw [display, String.utf8ByteSize_append, utf8ByteSize_bare]
    cases kind <;> decide
  rw [(unlabeled_display_of_ne differs id).parse_eq, ofBare_eq_invalidLength_iff.mpr longer]
  rfl

/-! ## All texts -/

/-- A text is read as an id exactly if 26 bytes are left of it without the label, all of them
digits, and the id is their number modulo `2 ^ 128`.  Otherwise the length is blamed first.  Small
letters count as capital ones.  The two texts of an id are read as this id, the display text by its
kind alone. -/
theorem texts_stand_for_ids :
    (∀ kind (id : RecordId kind), parse kind id.display = .ok id ∧ parse kind id.bare = .ok id) ∧
    (∀ kind text, ∃ rest, Unlabeled kind text rest ∧
      (∀ id, parse kind text = .ok id ↔ rest.utf8ByteSize = 26 ∧ ∃ digits,
        Forall₂ IsDigit rest.toList digits ∧
          id.value.val = Nat.ofDigits 32 digits.reverse % 2 ^ 128) ∧
      ((∃ id, parse kind text = .ok id) ↔
        rest.utf8ByteSize = 26 ∧ ∀ c ∈ rest.toList, IsDigitChar c) ∧
      (parse kind text = .error ⟨kind, .invalidLength⟩ ↔ rest.utf8ByteSize ≠ 26) ∧
      (parse kind text = .error ⟨kind, .invalidCharacter⟩ ↔
        rest.utf8ByteSize = 26 ∧ ∃ c ∈ rest.toList, ¬ IsDigitChar c)) ∧
    (∀ kind text rest other otherRest, Unlabeled kind text rest → Unlabeled kind other otherRest →
      rest.toList.map Char.toUpper = otherRest.toList.map Char.toUpper →
      parse kind text = parse kind other) ∧
    (∀ kind other (id : RecordId kind), kind ≠ other →
      parse other id.display = .error ⟨other, .invalidLength⟩) ∧
    (∀ kind (id other : RecordId kind),
      (id.display = other.display ↔ id = other) ∧ (id.bare = other.bare ↔ id = other)) ∧
    ∀ kind other (id : RecordId kind) (foreign : RecordId other),
      kind ≠ other → id.display ≠ foreign.display := by
  refine ⟨fun kind id => ⟨id.parse_display, id.parse_bare⟩, ?read, ?small, ?foreign, ?same, ?apart⟩
  case read =>
    intro kind text
    obtain ⟨rest, unlabeled⟩ := exists_unlabeled kind text
    refine ⟨rest, unlabeled, fun id => unlabeled.parse_eq_ok_iff.trans ofBare_eq_ok_iff, ?_,
      unlabeled.parse_eq_error_iff.trans ofBare_eq_invalidLength_iff,
      unlabeled.parse_eq_error_iff.trans ofBare_eq_invalidCharacter_iff⟩
    exact (exists_congr fun id => unlabeled.parse_eq_ok_iff).trans exists_ofBare_eq_ok_iff
  case small =>
    intro kind text rest other otherRest unlabeled otherUnlabeled same
    rw [unlabeled.parse_eq, otherUnlabeled.parse_eq, ofBare_eq_of_toUpper same]
  case foreign =>
    intro kind other id differs
    exact parse_display_of_ne differs id
  case same =>
    intro kind id other
    exact ⟨display_injective.eq_iff, bare_injective.eq_iff⟩
  case apart =>
    intro kind other id foreign differs same
    have refused := parse_display_of_ne differs id
    rw [same, foreign.parse_display] at refused
    cases refused

/-- The first digit exceeds 128 bits and is dropped. -/
theorem texts_stand_for_ids_dropped :
    parse .bot "bot_8000000000000000000000000z" = .ok (ofNat 31) ∧
      parse .log (ofNat 31 : BotId).display = .error ⟨.log, .invalidLength⟩ ∧
      (ofNat 31 : BotId).display ≠ (ofNat 31 : LogId).display := by
  obtain ⟨-, -, small, foreign, -, apart⟩ := texts_stand_for_ids
  have bare : Unlabeled .bot "8000000000000000000000000Z" "8000000000000000000000000Z" := by
    refine .bare fun rest same => ?_
    have first := congrArg (fun text => text.toList.head?) same
    rw [String.toList_append] at first
    exact absurd (Option.some.inj first) (by decide)
  have labeled : Unlabeled .bot _ _ := .labeled "8000000000000000000000000z"
  have capital : parse .bot "8000000000000000000000000Z" = .ok (ofNat 31) := by decide +kernel
  refine ⟨(small .bot _ _ _ _ labeled bare (by decide)).trans capital, ?_, ?_⟩
  · exact foreign .bot .log (ofNat 31) (by decide)
  · exact apart .bot .log (ofNat 31) (ofNat 31) (by decide)

end Chatflow.RecordId
