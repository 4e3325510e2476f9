import Chatflow.Prompt
import Chatflow.Proofs.Text.Occurrence
import Mathlib.Data.List.Perm.Basic

/-!
# Rendering

Rendering replaces one variable after the other.  It fills all placeholders of a template at once
as long as no occurrence of a placeholder starts in the text between them or in the value of a
variable that comes before its own.
-/

namespace Chatflow.Prompt

open Text

/-! ## Templates in parts -/

/-- A part of a template: text that stands for itself, or a placeholder. -/
inductive Part where
  | literal (text : String)
  | placeholder (name : String)
deriving DecidableEq, Repr

/-- The part as it is written in a template. -/
def Part.text : Part → String
  | literal text => text
  | placeholder name => Prompt.placeholder name

/-- What the author chose of the part: the text, or the name of the placeholder. -/
def Part.inner : Part → String
  | literal text => text
  | placeholder name => name

/-- The value of the placeholder as text, or the part as it is if it has none. -/
def Part.filled (values : Variables) : Part → Part
  | literal text => literal text
  | placeholder name =>
    match values.lookup name with
    | some value => literal value
    | none => placeholder name

/-- The parts one after the other. -/
def written : List Part → String
  | [] => ""
  | part :: rest => part.text ++ written rest

theorem written_map_congr {f g : Part → Part} (alike : ∀ part, (f part).text = (g part).text)
    (parts : List Part) : written (parts.map f) = written (parts.map g) := by
  induction parts with
  | nil => rfl
  | cons part rest ih => rw [List.map_cons, List.map_cons, written, written, alike, ih]

structure BraceFree (text : String) : Prop where
  opening : '{' ∉ text.toList
  closing : '}' ∉ text.toList

instance (text : String) : Decidable (BraceFree text) :=
  decidable_of_iff ('{' ∉ text.toList ∧ '}' ∉ text.toList)
    ⟨fun h => ⟨h.1, h.2⟩, fun h => ⟨h.opening, h.closing⟩⟩

/-- No occurrence of the placeholder starts in the text, whatever follows the text. -/
def StartsNo (name text : String) : Prop :=
  startsNone (placeholder name).toList text.toList = true

instance (name text : String) : Decidable (StartsNo name text) :=
  inferInstanceAs (Decidable (_ = true))

/-- Outside of placeholders, nothing in the part starts the one with the name. -/
def Part.IsSoundFor (name : String) : Part → Prop
  | literal text => StartsNo name text
  | placeholder given => BraceFree given

variable {name other value text : String} {parts : List Part} {part : Part}
  {values order : Variables}

@[simp] theorem Part.filled_nil (part : Part) : part.filled [] = part := by
  cases part <;> rfl

@[simp] theorem Part.filled_literal (values : Variables) (text : String) :
    (literal text).filled values = literal text := rfl

@[simp] theorem Part.filled_own (name value : String) (values : Variables) :
    (placeholder name).filled ((name, value) :: values) = literal value := by
  simp [filled]

theorem Part.filled_other (differs : other ≠ name) (value : String) (values : Variables) :
    (placeholder other).filled ((name, value) :: values) = (placeholder other).filled values := by
  rw [filled, filled, List.lookup_cons, beq_false_of_ne differs]

theorem toList_placeholder (name : String) :
    (placeholder name).toList = '{' :: '{' :: (name.toList ++ ['}', '}']) := by
  simp [placeholder]

theorem placeholder_filled (name : String) : (placeholder name).toList ≠ [] := by
  simp [toList_placeholder]

/-! ## Placeholders among each other -/

theorem eq_of_prefix_to_brace {left right more others : List Char} (hleft : '}' ∉ left)
    (hright : '}' ∉ right) (h : left ++ '}' :: more <+: right ++ '}' :: others) : left = right := by
  induction left generalizing right with
  | nil =>
      cases right with
      | nil => rfl
      | cons d ds => exact absurd (List.cons_prefix_cons.mp h).1 (by simp_all)
  | cons c cs ih =>
      cases right with
      | nil => exact absurd (List.cons_prefix_cons.mp h).1 (by simp_all)
      | cons d ds =>
          rw [List.mem_cons, not_or] at hleft hright
          obtain ⟨rfl, rest⟩ := List.cons_prefix_cons.mp h
          rw [ih hleft.2 hright.2 rest]

theorem startsNo_of_braceFree (free : BraceFree text) (name : String) : StartsNo name text := by
  rw [StartsNo, toList_placeholder]
  exact startsNone_of_not_mem free.opening _

/-- Behind the first brace of a placeholder, no other one starts. -/
theorem startsNone_tail_placeholder (otherNamed : BraceFree other) (name : String) :
    startsNone (placeholder name).toList (placeholder other).toList.tail = true := by
  have unopened : '{' ∉ other.toList ++ ['}', '}'] := by simp [otherNamed.opening]
  obtain ⟨d, ds, shape⟩ : ∃ d ds, other.toList ++ ['}', '}'] = d :: ds :=
    List.exists_cons_of_ne_nil (by simp)
  have inside : d ≠ '{' := by rintro rfl; exact unopened (shape ▸ List.mem_cons_self)
  rw [toList_placeholder, toList_placeholder, List.tail_cons, startsNone_cons_iff]
  simp only [List.cons_prefix_cons, true_and]
  refine ⟨⟨?_, ?_⟩, startsNone_of_not_mem unopened _⟩
  · rw [shape, List.cons_prefix_cons]
    exact fun occurs => inside occurs.1.symm
  · rw [shape, List.cons_prefix_cons]
    exact fun occurs => inside occurs.1

theorem startsNo_placeholder (named : BraceFree name) (otherNamed : BraceFree other)
    (differs : name ≠ other) : StartsNo name (placeholder other) := by
  have unequal : name.toList ≠ other.toList := fun same => differs (String.toList_inj.mp same)
  have tail := startsNone_tail_placeholder otherNamed name
  rw [toList_placeholder other, List.tail_cons] at tail
  rw [StartsNo, toList_placeholder other, startsNone_cons_iff]
  refine ⟨?_, tail⟩
  simp only [toList_placeholder, List.cons_prefix_cons, true_and]
  exact ⟨fun occurs => unequal (eq_of_prefix_to_brace named.closing otherNamed.closing occurs),
    fun occurs => unequal (eq_of_prefix_to_brace otherNamed.closing named.closing occurs).symm⟩

/-! ## Filling in one variable -/

theorem replaceAll_append_of_startsNo (unstarted : StartsNo name text) (rest value : String) :
    replaceAll (text ++ rest) (placeholder name) value =
      text ++ replaceAll rest (placeholder name) value := by
  rw [replaceAll, String.toList_append, replaceChars_append_of_startsNone unstarted,
    String.ofList_append, String.ofList_toList, replaceAll]

theorem replaceAll_placeholder_append (name rest value : String) :
    replaceAll (placeholder name ++ rest) (placeholder name) value =
      value ++ replaceAll rest (placeholder name) value := by
  rw [replaceAll, String.toList_append, replaceChars_append (placeholder_filled name),
    String.ofList_append, String.ofList_toList, replaceAll]

theorem Part.replaceAll_text_append (named : BraceFree name) (sound : part.IsSoundFor name)
    (rest value : String) :
    replaceAll (part.text ++ rest) (Prompt.placeholder name) value =
      (part.filled [(name, value)]).text ++ replaceAll rest (Prompt.placeholder name) value := by
  cases part with
  | literal text => exact replaceAll_append_of_startsNo sound rest value
  | placeholder other =>
      by_cases same : name = other
      · subst same
        rw [filled_own]
        exact replaceAll_placeholder_append name rest value
      · rw [filled_other (Ne.symm same), filled_nil]
        exact replaceAll_append_of_startsNo (startsNo_placeholder named sound same) rest value

theorem replaceAll_written (named : BraceFree name) (sound : ∀ part ∈ parts, part.IsSoundFor name)
    (value : String) :
    replaceAll (written parts) (placeholder name) value =
      written (parts.map (Part.filled [(name, value)])) := by
  induction parts with
  | nil => rfl
  | cons part rest ih =>
      have later := ih fun part member => sound part (List.mem_cons_of_mem _ member)
      rw [written, part.replaceAll_text_append named (sound part List.mem_cons_self), later]
      rfl

theorem replaceAll_self (name text : String) :
    replaceAll text (placeholder name) (placeholder name) = text := by
  rw [replaceAll, replaceChars_self (placeholder_filled name), String.ofList_toList]

theorem replaceAll_ne_self (different : value ≠ placeholder name)
    (occurs : (placeholder name).toList <:+: text.toList) :
    replaceAll text (placeholder name) value ≠ text := by
  intro same
  have unequal : value.toList ≠ (placeholder name).toList := fun equal =>
    different (String.toList_inj.mp equal)
  have sameChars := congrArg String.toList same
  rw [replaceAll, String.toList_ofList] at sameChars
  exact replaceChars_ne_self (placeholder_filled name) unequal occurs sameChars

/-! ## Filling in all variables -/

/-- Outside of placeholders, nothing in the parts starts one of the variables. -/
def AreSoundFor (values : Variables) (parts : List Part) : Prop :=
  ∀ part ∈ parts, ∀ entry ∈ values, part.IsSoundFor entry.1

/-- What lets the variables be filled in one after the other. -/
structure FillsInTurn (values : Variables) (parts : List Part) : Prop where
  named : ∀ entry ∈ values, BraceFree entry.1
  sound : AreSoundFor values parts
  spared : values.Pairwise fun earlier later => StartsNo later.1 earlier.2

theorem Part.filled_comp (name value : String) (values : Variables) :
    filled values ∘ filled [(name, value)] = filled ((name, value) :: values) := by
  funext part
  rw [Function.comp_apply]
  cases part with
  | literal text => rfl
  | placeholder other =>
      by_cases same : other = name
      · subst same
        rw [filled_own, filled_own, filled_literal]
      · rw [filled_other same, filled_other same, filled_nil]

/-- A placeholder that is its own value is written as before. -/
theorem Part.text_filled_self (name : String) (part : Part) :
    (part.filled [(name, Prompt.placeholder name)]).text = part.text := by
  cases part with
  | literal text => rfl
  | placeholder other =>
      by_cases same : other = name
      · subst same
        rw [filled_own]
        rfl
      · rw [filled_other same, filled_nil]

theorem Part.isSoundFor_filled (sound : part.IsSoundFor name) (spared : StartsNo name value)
    (other : String) : (part.filled [(other, value)]).IsSoundFor name := by
  cases part with
  | literal text => exact sound
  | placeholder given =>
      by_cases same : given = other
      · subst same
        rw [filled_own]
        exact spared
      · rw [filled_other same, filled_nil]
        exact sound

/-- Filling in the first variable leaves a template in which the others can be filled in. -/
theorem FillsInTurn.tail (h : FillsInTurn ((name, value) :: values) parts) :
    FillsInTurn values (parts.map (Part.filled [(name, value)])) := by
  obtain ⟨spared, rest⟩ := List.pairwise_cons.mp h.spared
  refine ⟨fun entry member => h.named entry (List.mem_cons_of_mem _ member), ?_, rest⟩
  intro part member entry among
  obtain ⟨before, known, rfl⟩ := List.mem_map.mp member
  exact Part.isSoundFor_filled (h.sound before known entry (List.mem_cons_of_mem _ among))
    (spared entry among) name

theorem FillsInTurn.render_written (h : FillsInTurn values parts) :
    render ⟨written parts⟩ values = written (parts.map (Part.filled values)) := by
  induction values generalizing parts with
  | nil =>
      have unchanged : Part.filled [] = id := funext Part.filled_nil
      rw [unchanged, List.map_id]
      rfl
  | cons entry values ih =>
      obtain ⟨name, value⟩ := entry
      -- One replacement leaves a template in parts, so the others go through it in the same way.
      have step := replaceAll_written (h.named _ List.mem_cons_self)
        (fun part member => h.sound part member _ List.mem_cons_self) value
      calc render ⟨written parts⟩ ((name, value) :: values)
        _ = render ⟨replaceAll (written parts) (placeholder name) value⟩ values := rfl
        _ = render ⟨written (parts.map (Part.filled [(name, value)]))⟩ values := by rw [step]
        _ = written ((parts.map (Part.filled [(name, value)])).map (Part.filled values)) :=
            ih h.tail
        _ = written (parts.map (Part.filled ((name, value) :: values))) := by
            rw [List.map_map, Part.filled_comp]

/-! ## The order of the variables -/

theorem lookup_eq_some_iff_mem (distinct : (values.map Prod.fst).Nodup) :
    values.lookup name = some value ↔ (name, value) ∈ values := by
  constructor
  · intro found
    obtain ⟨before, after, rfl, -⟩ := List.lookup_eq_some_iff.mp found
    exact List.mem_append_right before List.mem_cons_self
  · intro member
    obtain ⟨before, after, rfl⟩ := List.append_of_mem member
    refine List.lookup_eq_some_iff.mpr ⟨before, after, rfl, fun entry earlier => ?_⟩
    rw [List.map_append, List.map_cons, List.nodup_append] at distinct
    have apart : entry.1 ≠ name :=
      distinct.2.2 entry.1 (List.mem_map_of_mem earlier) name List.mem_cons_self
    simpa using apart.symm

theorem lookup_eq_of_perm (distinct : (values.map Prod.fst).Nodup) (rearranged : order.Perm values)
    (name : String) : order.lookup name = values.lookup name := by
  have distinctToo : (order.map Prod.fst).Nodup := (rearranged.map Prod.fst).nodup_iff.mpr distinct
  ext value
  rw [lookup_eq_some_iff_mem distinctToo, lookup_eq_some_iff_mem distinct, rearranged.mem_iff]

theorem Part.filled_of_perm (distinct : (values.map Prod.fst).Nodup)
    (rearranged : order.Perm values) : filled order = filled values := by
  funext part
  cases part with
  | literal text => rfl
  | placeholder name => rw [filled, filled, lookup_eq_of_perm distinct rearranged]

/-- Without braces in texts, names and values, all placeholders are filled at once, in whatever
order the variables are taken. -/
theorem renders_at_once (plain : ∀ part ∈ parts, BraceFree part.inner)
    (distinct : (values.map Prod.fst).Nodup) (names : ∀ entry ∈ values, BraceFree entry.1)
    (contents : ∀ entry ∈ values, BraceFree entry.2) (rearranged : order.Perm values) :
    render ⟨written parts⟩ order = written (parts.map (Part.filled values)) := by
  have inTurn : FillsInTurn order parts := by
    refine ⟨fun entry member => names entry (rearranged.mem_iff.mp member), ?_, ?_⟩
    · intro part member entry _
      have free := plain part member
      cases part with
      | literal text => exact startsNo_of_braceFree free entry.1
      | placeholder name => exact free
    · refine List.pairwise_of_forall_mem_list fun earlier among later _ => ?_
      exact startsNo_of_braceFree (contents earlier (rearranged.mem_iff.mp among)) later.1
  rw [inTurn.render_written, Part.filled_of_perm distinct rearranged]

theorem renders_at_once_adjacent :
    render ⟨written [.literal "Hi ", .placeholder "user_name", .placeholder "topic",
        .placeholder "user_name", .literal "!"]⟩ [("last_message", "x"), ("user_name", "Ada")] =
      "Hi Ada\x7b\x7btopic\x7d\x7dAda!" :=
  renders_at_once (by decide) (by decide) (by decide) (by decide)
    (.swap ("user_name", "Ada") ("last_message", "x") [])

/-! ## Two variables -/

/-- Every template shows the values as they are. -/
def ShowsAsIs (values : Variables) : Prop :=
  ∀ parts, AreSoundFor values parts →
    render ⟨written parts⟩ values = written (parts.map (Part.filled values))

section Pairs

variable {first second firstValue secondValue : String}

theorem render_pair (content : String) :
    render ⟨content⟩ [(first, firstValue), (second, secondValue)] =
      replaceAll (replaceAll content (placeholder first) firstValue) (placeholder second)
        secondValue := rfl

theorem written_completed (name value rest : String) (values : Variables) :
    written ([.placeholder name, .literal rest].map (Part.filled ((name, value) :: values))) =
      value ++ rest := by
  simp [written, Part.text]

/-- A variable whose value is its own placeholder is as good as none. -/
theorem showsAsIs_of_own_placeholder (firstNamed : BraceFree first) :
    ShowsAsIs [(first, firstValue), (second, placeholder second)] := by
  intro parts sound
  have single : FillsInTurn [(first, firstValue)] parts :=
    ⟨by simpa using firstNamed,
      fun part member entry among => sound part member entry (by simp_all),
      List.pairwise_singleton _ _⟩
  have alike (part : Part) : (part.filled [(first, firstValue)]).text =
      (part.filled [(first, firstValue), (second, placeholder second)]).text := by
    rw [← Part.filled_comp first firstValue [(second, placeholder second)], Function.comp_apply,
      Part.text_filled_self]
  calc render ⟨written parts⟩ [(first, firstValue), (second, placeholder second)]
    _ = replaceAll (render ⟨written parts⟩ [(first, firstValue)]) (placeholder second)
          (placeholder second) := render_pair _
    _ = render ⟨written parts⟩ [(first, firstValue)] := replaceAll_self _ _
    _ = written (parts.map (Part.filled [(first, firstValue)])) := single.render_written
    _ = written (parts.map (Part.filled [(first, firstValue), (second, placeholder second)])) :=
        written_map_congr alike parts

/-- A value that starts the placeholder of the variable behind it is changed in the template that
goes on with the end of that placeholder. -/
theorem not_showsAsIs_of_starts (firstNamed : BraceFree first) (secondNamed : BraceFree second)
    (starts : ¬ StartsNo second firstValue) (different : secondValue ≠ placeholder second) :
    ¬ ShowsAsIs [(first, firstValue), (second, secondValue)] := by
  obtain ⟨rest, suffix, occurs⟩ := exists_occurrence_of_starts (Bool.eq_false_iff.mpr starts)
  have tail (name : String) : StartsNo name (String.ofList rest) := by
    rw [StartsNo, String.toList_ofList]
    exact startsNone_of_suffix (startsNone_tail_placeholder secondNamed name) suffix
  have sound (name : String) :
      ∀ part ∈ [Part.placeholder first, .literal (String.ofList rest)], part.IsSoundFor name :=
    List.forall_mem_cons.mpr ⟨firstNamed, List.forall_mem_singleton.mpr (tail name)⟩
  intro shows
  have same := shows _ fun part member entry _ => sound entry.1 part member
  rw [render_pair, replaceAll_written firstNamed (sound first), written_completed,
    written_completed] at same
  refine replaceAll_ne_self different ?_ same
  rw [String.toList_append, String.toList_ofList]
  exact occurs

theorem showsAsIs_pair_iff (firstNamed : BraceFree first) (secondNamed : BraceFree second) :
    ShowsAsIs [(first, firstValue), (second, secondValue)] ↔
      StartsNo second firstValue ∨ secondValue = placeholder second := by
  constructor
  · intro shows
    by_contra neither
    rw [not_or] at neither
    exact not_showsAsIs_of_starts firstNamed secondNamed neither.1 neither.2 shows
  · rintro (spared | rfl)
    · intro parts sound
      refine FillsInTurn.render_written ⟨?_, sound, ?_⟩
      · simpa using ⟨firstNamed, secondNamed⟩
      · simpa using spared
    · exact showsAsIs_of_own_placeholder firstNamed

end Pairs

end Chatflow.Prompt
