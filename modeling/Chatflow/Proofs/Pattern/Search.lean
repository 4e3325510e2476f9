import Chatflow.Pattern.Compile
import Mathlib.Logic.Function.Iterate

/-!
# What a search finds

A pattern matches what stands between two positions of a text, by recursion on the pattern.  A
search that follows marks finds a match if and only if there is one.
-/

namespace Chatflow.Pattern

/-! ## Matches -/

/-- So many steps lead from one position to the other. -/
def Times (spans : Nat → Nat → Prop) : Nat → Nat → Nat → Prop
  | 0, start, stop => stop = start
  | count + 1, start, stop => ∃ middle, spans start middle ∧ Times spans count middle stop

/-- The pattern matches what stands between two positions of the text.  A bound on a repetition that
is less than the least number is as good as that number. -/
def Spans (text : List Char) : Pattern → Nat → Nat → Prop
  | .empty, start, stop => stop = start
  | .chars set, start, stop =>
      (∃ c, text[start]? = some c ∧ set.contains c = true) ∧ stop = start + 1
  | .place kind, start, stop =>
      kind.holds (text.take start).getLast? text[start]? = true ∧ stop = start
  | .marked body, start, stop => body.Spans text start stop
  | .andThen first second, start, stop =>
      ∃ middle, first.Spans text start middle ∧ second.Spans text middle stop
  | .orElse first second, start, stop => first.Spans text start stop ∨ second.Spans text start stop
  | .repeated least most body, start, stop =>
      ∃ count, least ≤ count ∧ (∀ bound, most = some bound → count ≤ max least bound) ∧
        Times (body.Spans text) count start stop

section Times

variable {spans : Nat → Nat → Prop} {count extra start stop limit : Nat}

theorem times_add_iff :
    Times spans (count + extra) start stop ↔
      ∃ middle, Times spans count start middle ∧ Times spans extra middle stop := by
  induction count generalizing start with
  | zero => simp [Times]
  | succ count ih =>
      rw [Nat.succ_add]
      simp only [Times, ih]
      constructor
      · rintro ⟨next, step, middle, before, after⟩
        exact ⟨middle, ⟨next, step, before⟩, after⟩
      · rintro ⟨middle, ⟨next, step, before⟩, after⟩
        exact ⟨next, step, middle, before, after⟩

theorem times_or_stay_iff :
    Times (fun start stop => stop = start ∨ spans start stop) limit start stop ↔
      ∃ count ≤ limit, Times spans count start stop := by
  induction limit generalizing start with
  | zero => simp [Times]
  | succ limit ih =>
      simp only [Times, ih]
      constructor
      · rintro ⟨middle, stays | step, count, within, rest⟩
        · subst stays
          exact ⟨count, by omega, rest⟩
        · exact ⟨count + 1, by omega, middle, step, rest⟩
      · rintro ⟨count, within, rest⟩
        cases count with
        | zero => exact ⟨start, .inl rfl, 0, by omega, rest⟩
        | succ count =>
            obtain ⟨middle, step, rest⟩ := rest
            exact ⟨middle, .inr step, count, by omega, rest⟩

theorem rel_of_times {related : Nat → Nat → Prop} (refl : ∀ i, related i i)
    (trans : ∀ i j k, related i j → related j k → related i k)
    (each : ∀ start stop, spans start stop → related start stop)
    (times : Times spans count start stop) : related start stop := by
  induction count generalizing start with
  | zero =>
      subst times
      exact refl _
  | succ count ih =>
      obtain ⟨middle, step, rest⟩ := times
      exact trans _ _ _ (each _ _ step) (ih rest)

theorem le_of_times (forward : ∀ start stop, spans start stop → start ≤ stop)
    (times : Times spans count start stop) : start ≤ stop :=
  rel_of_times Nat.le_refl (fun _ _ _ => Nat.le_trans) forward times

/-- Steps that stay where they are can be left out. -/
theorem exists_times_le (forward : ∀ start stop, spans start stop → start ≤ stop)
    (times : Times spans count start stop) :
    ∃ few ≤ stop - start, Times spans few start stop := by
  induction count generalizing start with
  | zero => exact ⟨0, Nat.zero_le _, times⟩
  | succ count ih =>
      obtain ⟨middle, step, rest⟩ := times
      obtain ⟨few, within, fewer⟩ := ih rest
      have advanced : start ≤ middle := forward _ _ step
      have onward : middle ≤ stop := le_of_times forward rest
      by_cases stays : middle = start
      · subst stays
        exact ⟨few, within, fewer⟩
      · exact ⟨few + 1, by omega, middle, step, fewer⟩

end Times

variable {text : List Char} {pattern : Pattern} {start stop : Nat}

theorem Spans.le (spans : pattern.Spans text start stop) : start ≤ stop := by
  induction pattern generalizing start stop with
  | empty => exact Nat.le_of_eq (Eq.symm spans)
  | chars set => have := spans.2; omega
  | place kind => exact Nat.le_of_eq spans.2.symm
  | marked body ih => exact ih spans
  | andThen first second ihFirst ihSecond =>
      obtain ⟨middle, before, after⟩ := spans
      exact Nat.le_trans (ihFirst before) (ihSecond after)
  | orElse first second ihFirst ihSecond => exact spans.elim ihFirst ihSecond
  | repeated least most body ih =>
      obtain ⟨count, -, -, times⟩ := spans
      exact le_of_times (fun _ _ => ih) times

theorem Spans.le_length (spans : pattern.Spans text start stop) (inside : start ≤ text.length) :
    stop ≤ text.length := by
  induction pattern generalizing start stop with
  | empty =>
      obtain rfl : stop = start := spans
      exact inside
  | chars set =>
      obtain ⟨⟨c, found, -⟩, rfl⟩ := spans
      exact (List.getElem?_eq_some_iff.mp found).1
  | place kind =>
      obtain rfl := spans.2
      exact inside
  | marked body ih => exact ih spans inside
  | andThen first second ihFirst ihSecond =>
      obtain ⟨middle, before, after⟩ := spans
      exact ihSecond after (ihFirst before inside)
  | orElse first second ihFirst ihSecond =>
      exact spans.elim (fun spans => ihFirst spans inside) fun spans => ihSecond spans inside
  | repeated least most body ih =>
      obtain ⟨count, -, -, times⟩ := spans
      let stays (i j : Nat) := i ≤ text.length → j ≤ text.length
      have kept : stays start stop :=
        rel_of_times (fun _ => id) (fun _ _ _ before after => after ∘ before) (fun _ _ => ih) times
      exact kept inside

/-! ## Marks -/

/-- The step moves marks of positions as the relation says: a position is marked afterwards if and
only if a marked position leads to it. -/
structure Moves (text : List Char) (step : Marks → Marks) (spans : Nat → Nat → Prop) : Prop where
  length_eq : ∀ marks : Marks, marks.length = text.length + 1 → (step marks).length = text.length + 1
  marked_iff : ∀ marks : Marks, marks.length = text.length + 1 → ∀ stop,
    (step marks)[stop]? = some true ↔ ∃ start, marks[start]? = some true ∧ spans start stop

theorem moves_id : Moves text id fun start stop => stop = start where
  length_eq _ length := length
  marked_iff marks _ stop := by simp

theorem moves_advance (set : CharSet) : Moves text (advance set text) ((chars set).Spans text) where
  length_eq marks length := by simp [advance, length]
  marked_iff marks length stop := by
    cases stop with
    | zero => simp [advance, Spans]
    | succ stop =>
        simp only [advance, List.getElem?_cons_succ, List.getElem?_zipWith_eq_some,
          Bool.and_eq_true, Spans]
        constructor
        · rintro ⟨_, c, marked, found, rfl, member⟩
          exact ⟨stop, marked, ⟨c, found, member⟩, rfl⟩
        · rintro ⟨start, marked, ⟨c, found, member⟩, same⟩
          cases same
          exact ⟨true, c, marked, found, rfl, member⟩

theorem length_borders (before : Option Char) (text : List Char) :
    (borders before text).length = text.length + 1 := by
  induction text generalizing before with
  | nil => rfl
  | cons c rest ih => simp [borders, ih]

theorem getElem?_borders (before : Option Char) {i : Nat} (inside : i ≤ text.length) :
    (borders before text)[i]? = some ((text.take i).getLast?.or before, text[i]?) := by
  induction text generalizing before i with
  | nil =>
      obtain rfl : i = 0 := Nat.le_zero.mp inside
      rfl
  | cons c rest ih =>
      cases i with
      | zero => rfl
      | succ i =>
          rw [borders, List.getElem?_cons_succ, ih _ (Nat.le_of_succ_le_succ inside)]
          simp [List.getLast?_cons, Option.or_some]

theorem moves_keepAt (kind : Place) :
    Moves text (keepAt kind text) ((place kind).Spans text) where
  length_eq marks length := by simp [keepAt, length, length_borders]
  marked_iff marks length stop := by
    have border (marked : marks[stop]? = some true) :
        (borders none text)[stop]? = some ((text.take stop).getLast?, text[stop]?) := by
      have inside := (List.getElem?_eq_some_iff.mp marked).1
      rw [getElem?_borders none (by omega), Option.or_none]
    simp only [keepAt, List.getElem?_zipWith_eq_some, Bool.and_eq_true, Spans]
    constructor
    · rintro ⟨_, _, marked, found, rfl, holds⟩
      cases (border marked).symm.trans found
      exact ⟨stop, marked, holds, rfl⟩
    · rintro ⟨start, marked, holds, rfl⟩
      exact ⟨true, _, marked, border marked, rfl, holds⟩

section Steps

variable {step next : Marks → Marks} {spans onward : Nat → Nat → Prop}

theorem Moves.comp (first : Moves text step spans) (second : Moves text next onward) :
    Moves text (next ∘ step) fun start stop =>
      ∃ middle, spans start middle ∧ onward middle stop where
  length_eq marks length := second.length_eq _ (first.length_eq marks length)
  marked_iff marks length stop := by
    rw [Function.comp, second.marked_iff _ (first.length_eq marks length)]
    simp only [first.marked_iff marks length]
    constructor
    · rintro ⟨middle, ⟨start, marked, before⟩, after⟩
      exact ⟨start, marked, middle, before, after⟩
    · rintro ⟨start, marked, middle, before, after⟩
      exact ⟨middle, ⟨start, marked, before⟩, after⟩

theorem Moves.merge (first : Moves text step spans) (second : Moves text next onward) :
    Moves text (fun marks => merge (step marks) (next marks)) fun start stop =>
      spans start stop ∨ onward start stop where
  length_eq marks length := by
    simp [Pattern.merge, first.length_eq marks length, second.length_eq marks length]
  marked_iff marks length stop := by
    have either : (Pattern.merge (step marks) (next marks))[stop]? = some true ↔
        (step marks)[stop]? = some true ∨ (next marks)[stop]? = some true := by
      have lengths := (first.length_eq marks length).trans (second.length_eq marks length).symm
      rw [Pattern.merge, List.getElem?_zipWith_eq_some]
      by_cases inside : stop < (step marks).length
      · have insideNext := lengths ▸ inside
        simp [inside, insideNext]
      · have outsideNext := lengths ▸ inside
        simp [inside, outsideNext]
    rw [either, first.marked_iff marks length, second.marked_iff marks length, ← exists_or]
    simp only [and_or_left]

theorem Moves.iterate (moves : Moves text step spans) (count : Nat) :
    Moves text step^[count] (Times spans count) := by
  induction count with
  | zero => exact moves_id
  | succ count ih => exact moves.comp ih

/-- To stop when nothing changes does not change the result. -/
theorem applyTimes_eq_iterate (step : Marks → Marks) (count : Nat) (marks : Marks) :
    applyTimes step count marks = step^[count] marks := by
  induction count generalizing marks with
  | zero => rfl
  | succ count ih =>
      rw [applyTimes]
      by_cases fixed : step marks = marks
      · simp only [if_pos fixed]
        exact (Function.iterate_fixed fixed _).symm
      · simp only [if_neg fixed]
        exact ih _

theorem Moves.applyTimes (moves : Moves text step spans) (count : Nat) :
    Moves text (applyTimes step count) (Times spans count) := by
  rw [funext (applyTimes_eq_iterate step count)]
  exact moves.iterate count

/-- Only positions of the text matter. -/
theorem Moves.congr (moves : Moves text step spans)
    (same : ∀ start ≤ text.length, ∀ stop, spans start stop ↔ onward start stop) :
    Moves text step onward where
  length_eq := moves.length_eq
  marked_iff marks length stop := by
    rw [moves.marked_iff marks length]
    refine exists_congr fun start => and_congr_right fun marked => same start ?_ stop
    have inside := (List.getElem?_eq_some_iff.mp marked).1
    omega

theorem Moves.spread (moves : Moves text step spans) (limit : Nat) :
    Moves text (spread step limit) fun start stop =>
      ∃ count ≤ limit, Times spans count start stop :=
  ((moves_id.merge moves).applyTimes limit).congr fun _ _ _ => times_or_stay_iff

end Steps

/-- As many rounds as there are positions are as good as any number. -/
theorem moves_repeated {body : Pattern} (moves : Moves text (follow text body) (body.Spans text))
    (least : Nat) (most : Option Nat) :
    Moves text (follow text (repeated least most body))
      ((repeated least most body).Spans text) := by
  refine ((moves.applyTimes least).comp (moves.spread _)).congr fun start inside stop => ?_
  constructor
  · rintro ⟨middle, required, count, within, optional⟩
    refine ⟨least + count, by omega, ?_, times_add_iff.mpr ⟨middle, required, optional⟩⟩
    rintro bound rfl
    change count ≤ bound - least at within
    omega
  · rintro ⟨count, enough, within, times⟩
    obtain ⟨extra, rfl⟩ := Nat.exists_eq_add_of_le enough
    obtain ⟨middle, required, optional⟩ := times_add_iff.mp times
    refine ⟨middle, required, ?_⟩
    cases most with
    | none =>
        -- Each round that counts goes on by a position, and the last of them is in the text.
        have whole : (repeated least none body).Spans text start stop :=
          ⟨least + extra, enough, within, times⟩
        have stopInside : stop ≤ text.length := whole.le_length inside
        obtain ⟨few, fewEnough, fewer⟩ := exists_times_le (fun _ _ => Spans.le) optional
        exact ⟨few, by change few ≤ text.length + 1; omega, fewer⟩
    | some bound =>
        have := within bound rfl
        exact ⟨extra, by change extra ≤ bound - least; omega, optional⟩

theorem moves_follow (text : List Char) (pattern : Pattern) :
    Moves text (follow text pattern) (pattern.Spans text) := by
  induction pattern with
  | empty => exact moves_id
  | chars set => exact moves_advance set
  | place kind => exact moves_keepAt kind
  | marked body ih => exact ih
  | andThen first second ihFirst ihSecond => exact ihFirst.comp ihSecond
  | orElse first second ihFirst ihSecond => exact ihFirst.merge ihSecond
  | repeated least most body ih => exact moves_repeated ih least most

/-! ## Searches -/

/-- A search finds a pattern if and only if the pattern matches some part of the text. -/
theorem isFoundIn_iff (pattern : Pattern) (text : String) :
    pattern.isFoundIn text = true ↔
      ∃ start stop, start ≤ text.toList.length ∧ pattern.Spans text.toList start stop := by
  let marks : Marks := List.replicate (text.toList.length + 1) true
  have everywhere (start : Nat) : marks[start]? = some true ↔ start ≤ text.toList.length := by
    rw [List.getElem?_replicate, Option.ite_none_right_eq_some, Nat.lt_succ_iff]
    exact and_iff_left rfl
  have moves := (moves_follow text.toList pattern).marked_iff marks List.length_replicate
  rw [isFoundIn, finds, List.any_eq_true]
  simp only [id_eq, exists_eq_right, List.mem_iff_getElem?]
  rw [exists_comm]
  refine exists_congr fun stop => (moves stop).trans (exists_congr fun start => ?_)
  rw [everywhere]

end Chatflow.Pattern
