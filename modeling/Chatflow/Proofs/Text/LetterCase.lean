import Chatflow.Proofs.Text.Blank
import Chatflow.Proofs.Text.SmallForm

/-!
# Lower case

Lower-casing a second time changes nothing, and lower-casing goes with trimming in either order.
Both rest on what a letter sees of the text around it, which is a letter with case or nothing.
-/

namespace Chatflow.Text

variable {before after cs more piece : List Char} {c d : Char}

/-! ## What is seen from a sigma -/

theorem meetsCased_nil : meetsCased [] = false := rfl

theorem meetsCased_cons_of_ignorable (ignorable : isCaseIgnorable c = true) (cs : List Char) :
    meetsCased (c :: cs) = meetsCased cs := by
  rw [meetsCased, List.dropWhile_cons_of_pos ignorable, meetsCased]

theorem meetsCased_cons_of_plain (plain : isCaseIgnorable c = false) (cs : List Char) :
    meetsCased (c :: cs) = isCased c := by
  rw [meetsCased, List.dropWhile_cons_of_neg (Bool.eq_false_iff.mp plain)]

/-- What stands behind is seen through ignorable marks only. -/
theorem meetsCased_append (cs more : List Char) :
    meetsCased (cs ++ more) =
      if cs.all isCaseIgnorable then meetsCased more else meetsCased cs := by
  induction cs with
  | nil => rfl
  | cons c rest ih =>
      cases ignorable : isCaseIgnorable c with
      | true =>
          simp only [List.cons_append, meetsCased_cons_of_ignorable ignorable, ih, List.all_cons,
            ignorable, Bool.true_and]
      | false =>
          simp [meetsCased_cons_of_plain ignorable, ignorable]

theorem meetsCased_append_of_unseen (unseen : meetsCased more = false) (cs : List Char) :
    meetsCased (cs ++ more) = meetsCased cs := by
  induction cs with
  | nil => exact unseen
  | cons c rest ih =>
      cases ignorable : isCaseIgnorable c with
      | true => rwa [List.cons_append, meetsCased_cons_of_ignorable ignorable,
          meetsCased_cons_of_ignorable ignorable]
      | false => rw [List.cons_append, meetsCased_cons_of_plain ignorable,
          meetsCased_cons_of_plain ignorable]

/-- A blank has no case, and nothing is seen through it. -/
theorem isCased_of_isBlank (blank : isBlank c = true) :
    isCased c = false ∧ isCaseIgnorable c = false := by
  obtain ⟨run, member, inside⟩ := exists_run_of_isBlank blank
  have outside := Unicode.inRuns_eq_false_of_areApart areApart_blankRuns member inside
  simp only [Unicode.inRuns, List.any_append, Bool.or_eq_false_iff] at outside
  exact ⟨outside.1.2, outside.2⟩

theorem AllBlank.meetsCased (blank : AllBlank cs) : meetsCased cs = false := by
  cases cs with
  | nil => rfl
  | cons c rest =>
      obtain ⟨uncased, plain⟩ := isCased_of_isBlank (blank c (.head _))
      rwa [meetsCased_cons_of_plain plain]

/-! ## A piece in its place -/

/-- The small forms of a piece of a text; what stands before it is given backwards. -/
def lowerBetween (before : List Char) : List Char → List Char → List Char
  | [], _ => []
  | c :: rest, after =>
    smallFormIn before c (rest ++ after) ++ lowerBetween (c :: before) rest after

theorem lowerAfter_append (before piece after : List Char) :
    lowerAfter before (piece ++ after) =
      lowerBetween before piece after ++ lowerAfter (piece.reverse ++ before) after := by
  induction piece generalizing before with
  | nil => rfl
  | cons c rest ih => simp [lowerAfter, lowerBetween, ih]

theorem lowerBetween_nil (before piece : List Char) :
    lowerBetween before piece [] = lowerAfter before piece := by
  simpa [lowerAfter] using (lowerAfter_append before piece []).symm

/-- A piece is lower-cased as if nothing stood around it, if no letter with case is seen from it. -/
theorem lowerBetween_of_unseen (unseenBefore : meetsCased before = false)
    (unseenAfter : meetsCased after = false) (seen piece : List Char) :
    lowerBetween (seen ++ before) piece after = lowerAfter seen piece := by
  induction piece generalizing seen with
  | nil => rfl
  | cons c rest ih =>
      have form : smallFormIn (seen ++ before) c (rest ++ after) = smallFormIn seen c rest := by
        rw [smallFormIn, smallFormIn, isWordEnd, isWordEnd,
          meetsCased_append_of_unseen unseenBefore, meetsCased_append_of_unseen unseenAfter]
      rw [lowerBetween, lowerAfter, form, ← List.cons_append, ih]

/-! ## Lower-casing twice -/

theorem mem_smallFormIn_cases (h : d ∈ smallFormIn before c after) :
    (d = 'ς' ∨ d = 'σ') ∨ d ∈ smallForm c := by
  rw [smallFormIn] at h
  split at h
  · left
    split at h
    · exact .inl (List.mem_singleton.mp h)
    · exact .inr (List.mem_singleton.mp h)
  · exact .inr h

theorem isSmall_of_mem_smallFormIn (h : d ∈ smallFormIn before c after) : IsSmall d := by
  rcases mem_smallFormIn_cases h with (rfl | rfl) | member
  · exact ⟨by decide, by decide +kernel⟩
  · exact ⟨by decide, by decide +kernel⟩
  · exact isSmall_of_mem_smallForm member

theorem isSmall_of_mem_lowerAfter (h : d ∈ lowerAfter before cs) : IsSmall d := by
  induction cs generalizing before with
  | nil => cases h
  | cons c rest ih =>
      rw [lowerAfter, List.mem_append] at h
      exact h.elim isSmall_of_mem_smallFormIn ih

theorem IsSmall.smallFormIn (small : IsSmall c) (before after : List Char) :
    smallFormIn before c after = [c] := by
  rw [Text.smallFormIn, if_neg small.ne_sigma, small.smallForm]

theorem lowerBetween_of_small (small : ∀ c ∈ cs, IsSmall c) (before after : List Char) :
    lowerBetween before cs after = cs := by
  induction cs generalizing before with
  | nil => rfl
  | cons c rest ih =>
      rw [List.forall_mem_cons] at small
      rw [lowerBetween, small.1.smallFormIn, ih small.2, List.singleton_append]

/-- A text in lower case is its own lower case: no capital sigma is left whose form could depend
on its place. -/
theorem lowerChars_lowerChars (cs : List Char) : lowerChars (lowerChars cs) = lowerChars cs := by
  have small : ∀ c ∈ lowerChars cs, IsSmall c := fun _ member => isSmall_of_mem_lowerAfter member
  exact (lowerBetween_nil [] _).symm.trans (lowerBetween_of_small small [] [])

/-! ## Lower-casing and trimming -/

theorem AllBlank.lowerBetween (blank : AllBlank cs) (before after : List Char) :
    lowerBetween before cs after = cs :=
  lowerBetween_of_small (fun c member => isSmall_of_isBlank (blank c member)) before after

theorem lowerChars_between {left right : List Char} (leftBlank : AllBlank left)
    (rightBlank : AllBlank right) (cs : List Char) :
    lowerChars (left ++ cs ++ right) = left ++ lowerChars cs ++ right := by
  have core : lowerBetween left.reverse cs right = lowerChars cs :=
    lowerBetween_of_unseen leftBlank.reverse.meetsCased rightBlank.meetsCased [] cs
  rw [List.append_assoc, lowerChars, lowerAfter_append, lowerAfter_append,
    leftBlank.lowerBetween, List.append_nil, core, ← lowerBetween_nil, rightBlank.lowerBetween,
    List.append_assoc]

theorem smallFormIn_ne_nil (before : List Char) (c : Char) (after : List Char) :
    smallFormIn before c after ≠ [] := by
  rw [smallFormIn, smallForm]
  split
  · exact List.cons_ne_nil _ _
  · split <;> exact List.cons_ne_nil _ _

theorem isBlank_of_mem_smallFormIn (h : d ∈ smallFormIn before c after)
    (solid : isBlank c = false) : isBlank d = false := by
  rcases mem_smallFormIn_cases h with (rfl | rfl) | member
  · decide
  · decide
  · exact isBlank_of_mem_smallForm member solid

theorem Trimmed.lowerChars (trimmed : Trimmed cs) : Trimmed (lowerChars cs) where
  first := by
    cases cs with
    | nil => exact nofun
    | cons c rest =>
        intro d h
        obtain ⟨e, others, form⟩ := List.exists_cons_of_ne_nil (smallFormIn_ne_nil [] c rest)
        rw [Text.lowerChars, lowerAfter, form, List.cons_append, List.head?_cons] at h
        cases h
        exact isBlank_of_mem_smallFormIn (form ▸ List.mem_cons_self) (trimmed.first c rfl)
  last := by
    rcases List.eq_nil_or_concat cs with rfl | ⟨rest, c, rfl⟩
    · exact nofun
    · intro d h
      rw [List.concat_eq_append] at trimmed h
      have filled := smallFormIn_ne_nil (rest.reverse ++ []) c []
      rw [Text.lowerChars, lowerAfter_append, lowerAfter, lowerAfter, List.append_nil,
        List.getLast?_append, List.getLast?_eq_some_getLast filled, Option.some_or] at h
      cases h
      exact isBlank_of_mem_smallFormIn (List.getLast_mem filled)
        (trimmed.last c (List.getLast?_concat ..))

/-- It does not matter whether a text is trimmed or lower-cased first. -/
theorem trimChars_lowerChars (cs : List Char) :
    trimChars (lowerChars cs) = lowerChars (trimChars cs) := by
  obtain ⟨left, right, split, leftBlank, rightBlank, trimmed⟩ := exists_trimChars cs
  calc trimChars (lowerChars cs)
      = trimChars (lowerChars (left ++ trimChars cs ++ right)) := by rw [← split]
    _ = trimChars (left ++ lowerChars (trimChars cs) ++ right) := by
        rw [lowerChars_between leftBlank rightBlank]
    _ = lowerChars (trimChars cs) := trimmed.lowerChars.trimChars_between leftBlank rightBlank

/-! ## Texts -/

theorem lower_lower (text : String) : lower (lower text) = lower text := by
  rw [lower, toList_lower, lowerChars_lowerChars, lower]

theorem trim_lower (text : String) : trim (lower text) = lower (trim text) := by
  rw [trim, toList_lower, trimChars_lowerChars, lower, toList_trim]

end Chatflow.Text
