import Chatflow.Config.Value
import Chatflow.Proofs.Json.Value
import Chatflow.Proofs.Text.Occurrence

/-!
# Layers of a configuration

A value that a source lays over what stands at a path stays there while other entries are laid over
the configuration, unless one of them replaces what the path leads through.  What is laid over the
inside of the value makes a table or a list of it.  Beside the path the value makes no difference.
-/

namespace Chatflow.Config.Value

open Json (forall_mem_of_forall₂)
open Json.Document (mapM_eq_some_iff)

variable {key other name : String} {value base incoming held first second : Value}
  {entries source : Entries} {path names : List String} {steps : List Step}

/-! ## Entries -/

theorem lookup_cons_eq_ite (key other : String) (value : Value) (entries : Entries) :
    List.lookup other ((key, value) :: entries) =
      if other = key then some value else entries.lookup other := by
  rw [List.lookup_cons]
  by_cases same : other = key
  · rw [if_pos same, beq_iff_eq.mpr same]
  · rw [if_neg same, beq_eq_false_iff_ne.mpr same]

theorem lookup_put (key other : String) (value : Value) (entries : Entries) :
    (put key value entries).lookup other =
      if other = key then some value else entries.lookup other := by
  induction entries with
  | nil => exact lookup_cons_eq_ite key other value []
  | cons entry entries ih =>
      obtain ⟨k, v⟩ := entry
      rw [put]
      by_cases found : k = key
      · rw [if_pos found, lookup_cons_eq_ite, lookup_cons_eq_ite, found]
        split <;> rfl
      · rw [if_neg found, lookup_cons_eq_ite, lookup_cons_eq_ite, ih]
        by_cases same : other = key
        · subst same
          rw [if_pos rfl, if_pos rfl, if_neg (Ne.symm found)]
        · simp only [if_neg same]

theorem mem_put {entry : String × Value} (member : entry ∈ put key value entries) :
    entry = (key, value) ∨ entry ∈ entries := by
  induction entries with
  | nil => exact .inl (List.mem_singleton.mp member)
  | cons first entries ih =>
      rw [put] at member
      split at member
      · exact (List.mem_cons.mp member).imp_right (List.mem_cons_of_mem _)
      · rcases List.mem_cons.mp member with rfl | member
        · exact .inr List.mem_cons_self
        · exact (ih member).imp_right (List.mem_cons_of_mem _)

theorem put_append (key : String) (value : Value) (front back : Entries) :
    put key value (front ++ back) =
      if key ∈ front.map Prod.fst then put key value front ++ back
      else front ++ put key value back := by
  induction front with
  | nil => rfl
  | cons entry front ih =>
      obtain ⟨k, v⟩ := entry
      rw [List.cons_append, put, put]
      by_cases found : k = key
      · simp [found]
      · rw [if_neg found, if_neg found, ih]
        by_cases later : key ∈ front.map Prod.fst <;> simp [later, Ne.symm found]

theorem put_of_not_mem (new : key ∉ entries.map Prod.fst) :
    put key value entries = entries ++ [(key, value)] := by
  rw [← List.append_nil entries, put_append, if_neg new, List.append_nil, put]

theorem keys_put (key : String) (value : Value) (entries : Entries) :
    (put key value entries).map Prod.fst =
      if key ∈ entries.map Prod.fst then entries.map Prod.fst
      else entries.map Prod.fst ++ [key] := by
  induction entries with
  | nil => rfl
  | cons entry entries ih =>
      obtain ⟨k, v⟩ := entry
      rw [put]
      by_cases found : k = key
      · simp [found]
      · rw [if_neg found, List.map_cons, ih]
        by_cases later : key ∈ entries.map Prod.fst <;> simp [later, Ne.symm found]

/-- Keys stand only once. -/
theorem nodup_put (distinct : (entries.map Prod.fst).Nodup) :
    ((put key value entries).map Prod.fst).Nodup := by
  rw [keys_put]
  split
  · exact distinct
  · rename_i new
    refine List.nodup_append.mpr ⟨distinct, List.nodup_singleton _, fun k member _ last => ?_⟩
    rw [List.mem_singleton.mp last]
    rintro rfl
    exact new member

theorem child_of_lookup (found : entries.lookup key = some value) : child entries key = value := by
  rw [child, found]
  rfl

theorem addSource_append (base : Value) (front back : Entries) :
    addSource base (front ++ back) = addSource (addSource base front) back :=
  List.foldl_append

theorem addSource_cons (base : Value) (entry : String × Value) (source : Entries) :
    addSource base (entry :: source) =
      addSource (overlayAt entry.2 base (keyPath entry.1)) source :=
  rfl

theorem addSource_concat (base : Value) (source : Entries) (entry : String × Value) :
    addSource base (source ++ [entry]) =
      overlayAt entry.2 (addSource base source) (keyPath entry.1) :=
  List.foldl_concat ..

/-! ## Paths -/

/-- What stands at the end of a path of keys, if tables lead there. -/
def at? (value : Value) : List String → Option Value
  | [] => some value
  | key :: path => (value.entries.lookup key).bind fun inner => inner.at? path

theorem at?_singleton (value : Value) (key : String) :
    value.at? [key] = value.entries.lookup key := by
  rw [at?]
  exact Option.bind_fun_some _

theorem at?_pair_eq_some_iff {key name : String} :
    value.at? [key, name] = some held ↔
      ∃ inner, value.entries.lookup key = some (.table inner) ∧ inner.lookup name = some held := by
  rw [at?, Option.bind_eq_some_iff]
  constructor
  · rintro ⟨inner, stands, found⟩
    rw [at?_singleton] at found
    cases inner with
    | table entries => exact ⟨entries, stands, found⟩
    | null | boolean | integer | real | text | list => cases found
  · rintro ⟨inner, stands, found⟩
    exact ⟨_, stands, (at?_singleton _ _).trans found⟩

/-- A table or a list. -/
inductive IsNested : Value → Prop
  | table (entries : Entries) : IsNested (table entries)
  | list (items : List Value) : IsNested (list items)

theorem not_isNested_of_text? {text : String} (isText : value.text? = some text) :
    ¬ value.IsNested := by
  rintro ⟨⟩ <;> cases isText

theorem isNested_overlayAt (nonempty : steps ≠ []) : IsNested (overlayAt incoming base steps) := by
  cases steps with
  | nil => exact absurd rfl nonempty
  | cons step steps =>
      cases step with
      | key name => exact .table _
      | item position => exact .list _

/-- The steps end on the way to what stands at the path, or they turn into a list there: a value
that is laid over their end takes the place of what leads to it. -/
def Cuts : List Step → List String → Prop
  | [], path => path ≠ []
  | .item _ :: _, path => path ≠ []
  | .key _ :: _, [] => False
  | .key name :: steps, key :: path => name = key ∧ Cuts steps path

instance decidableCuts : (steps : List Step) → (path : List String) → Decidable (Cuts steps path)
  | [], path => inferInstanceAs (Decidable (path ≠ []))
  | .item _ :: _, path => inferInstanceAs (Decidable (path ≠ []))
  | .key _ :: _, [] => inferInstanceAs (Decidable False)
  | .key name :: steps, key :: path =>
    have := decidableCuts steps path
    inferInstanceAs (Decidable (name = key ∧ Cuts steps path))

theorem not_cuts_self (path : List String) : ¬ Cuts (path.map .key) path := by
  induction path with
  | nil => exact fun cuts => cuts rfl
  | cons key path ih => exact fun cuts => ih cuts.2

/-- The steps lead elsewhere, or into what stands at the path. -/
structure Spares (steps : List Step) (path : List String) : Prop where
  uncut : ¬ Cuts steps path
  differs : steps ≠ path.map .key

theorem Spares.tail {key : String} (spared : Spares (.key key :: steps) (key :: path)) :
    Spares steps path where
  uncut cuts := spared.uncut ⟨rfl, cuts⟩
  differs same := spared.differs (by rw [same, List.map_cons])

theorem Spares.ne_nil (spared : Spares steps []) : steps ≠ [] := spared.differs

theorem overlay_eq (plain : ¬ incoming.IsNested) (base : Value) :
    overlay base incoming = incoming := by
  cases incoming with
  | table entries => exact absurd (.table entries) plain
  | null | boolean | integer | real | text | list => rfl

theorem child_put (key other : String) (value : Value) (entries : Entries) :
    child (put key value entries) other = if other = key then value else child entries other := by
  rw [child, lookup_put]
  split <;> rfl

theorem entries_overlayAt (incoming base : Value) (name : String) (steps : List Step) :
    (overlayAt incoming base (.key name :: steps)).entries =
      put name (overlayAt incoming (child base.entries name) steps) base.entries :=
  rfl

/-! ### What a source sets -/

theorem at?_overlayAt_self (plain : ¬ incoming.IsNested) :
    (overlayAt incoming base (path.map .key)).at? path = some incoming := by
  induction path generalizing base with
  | nil => exact congrArg some (overlay_eq plain base)
  | cons key path ih =>
      rw [List.map_cons, at?, entries_overlayAt, lookup_put, if_pos rfl, Option.bind_some, ih]

/-- Laying a value over something else keeps what stands at a path, or makes it nested. -/
theorem at?_overlayAt (incoming : Value) (spared : Spares steps path)
    (found : base.at? path = some held) :
    ∃ after, (overlayAt incoming base steps).at? path = some after ∧
      (after = held ∨ after.IsNested) := by
  induction steps generalizing base path with
  | nil =>
      obtain rfl : path = [] := not_not.mp spared.uncut
      exact absurd rfl spared.ne_nil
  | cons step steps ih =>
      cases path with
      | nil => exact ⟨_, rfl, .inr (isNested_overlayAt spared.ne_nil)⟩
      | cons key path =>
          cases step with
          | item position => exact absurd (List.cons_ne_nil _ _) spared.uncut
          | key name =>
              rw [at?, Option.bind_eq_some_iff] at found
              obtain ⟨inner, stands, found⟩ := found
              rw [at?, entries_overlayAt, lookup_put]
              by_cases same : key = name
              · subst same
                rw [if_pos rfl, Option.bind_some, child_of_lookup stands]
                exact ih spared.tail found
              · rw [if_neg same, stands, Option.bind_some]
                exact ⟨held, found, .inl rfl⟩

theorem at?_addSource (spared : ∀ entry ∈ source, Spares (keyPath entry.1) path)
    (found : base.at? path = some held) :
    ∃ after, (addSource base source).at? path = some after ∧ (after = held ∨ after.IsNested) := by
  induction source using List.reverseRecOn with
  | nil => exact ⟨held, found, .inl rfl⟩
  | append_singleton source entry ih =>
      obtain ⟨earlier, last⟩ := List.forall_mem_append.mp spared
      obtain ⟨now, stands, kept⟩ := ih earlier
      obtain ⟨after, later, changed⟩ :=
        at?_overlayAt entry.2 (last entry List.mem_cons_self) stands
      rw [addSource_concat]
      refine ⟨after, later, ?_⟩
      rcases changed with rfl | nested
      · exact kept
      · exact .inr nested

/-! ### What a source leaves alone -/

/-- The same values stand beside the path in both, and if something nested stands at its end in the
second, so it does in the first. -/
def AgreeBeside : List String → Value → Value → Prop
  | [], first, second => second.IsNested → first.IsNested
  | key :: path, first, second =>
    (∀ other, other ≠ key → first.entries.lookup other = second.entries.lookup other) ∧
      AgreeBeside path (child first.entries key) (child second.entries key)

theorem agreeBeside_overlayAt_self (path : List String) (base : Value)
    (plain : ¬ incoming.IsNested) :
    AgreeBeside path base (overlayAt incoming base (path.map .key)) := by
  induction path generalizing base with
  | nil =>
      intro nested
      rw [List.map_nil, overlayAt, overlay_eq plain] at nested
      exact absurd nested plain
  | cons key path ih =>
      rw [List.map_cons, AgreeBeside, entries_overlayAt, child_put, if_pos rfl]
      exact ⟨fun other differs => by rw [lookup_put, if_neg differs], ih _⟩

theorem agreeBeside_overlayAt (spared : Spares steps path)
    (agree : AgreeBeside path first second) :
    AgreeBeside path (overlayAt incoming first steps) (overlayAt incoming second steps) := by
  induction steps generalizing first second path with
  | nil =>
      obtain rfl : path = [] := not_not.mp spared.uncut
      exact absurd rfl spared.ne_nil
  | cons step steps ih =>
      cases path with
      | nil => exact fun _ => isNested_overlayAt spared.ne_nil
      | cons key path =>
          cases step with
          | item position => exact absurd (List.cons_ne_nil _ _) spared.uncut
          | key name =>
              obtain ⟨beside, inside⟩ := agree
              have child_eq : name ≠ key → child first.entries name = child second.entries name :=
                fun differs => congrArg (·.getD null) (beside name differs)
              rw [AgreeBeside, entries_overlayAt, entries_overlayAt, child_put, child_put]
              -- Steps that leave the path go on in equal values, the others in values that agree.
              constructor
              · intro other differs
                rw [lookup_put, lookup_put]
                by_cases same : other = name
                · rw [if_pos same, if_pos same, child_eq (same ▸ differs)]
                · rw [if_neg same, if_neg same, beside other differs]
              · by_cases same : key = name
                · subst same
                  rw [if_pos rfl, if_pos rfl]
                  exact ih spared.tail inside
                · rw [if_neg same, if_neg same]
                  exact inside

theorem agreeBeside_addSource (spared : ∀ entry ∈ source, Spares (keyPath entry.1) path)
    (agree : AgreeBeside path first second) :
    AgreeBeside path (addSource first source) (addSource second source) := by
  induction source using List.reverseRecOn with
  | nil => exact agree
  | append_singleton source entry ih =>
      rw [addSource_concat, addSource_concat]
      obtain ⟨earlier, last⟩ := List.forall_mem_append.mp spared
      exact agreeBeside_overlayAt (last entry List.mem_cons_self) (ih earlier)

/-- What is nested at the end of the path in the second is so in the first. -/
theorem AgreeBeside.exists_at? (agree : AgreeBeside path first second)
    (found : second.at? path = some held) (nested : held.IsNested) :
    ∃ other, first.at? path = some other ∧ other.IsNested := by
  induction path generalizing first second with
  | nil =>
      cases found
      exact ⟨first, rfl, agree nested⟩
  | cons key path ih =>
      rw [at?, Option.bind_eq_some_iff] at found
      obtain ⟨inner, stands, found⟩ := found
      obtain ⟨other, reached, nested⟩ := ih agree.2 (child_of_lookup stands ▸ found)
      refine ⟨other, ?_, nested⟩
      cases stands : first.entries.lookup key with
      | some inner =>
          rw [child, stands] at reached
          rw [at?, stands]
          exact reached
      | none =>
          -- Nothing nested stands in null.
          rw [child, stands] at reached
          cases path with
          | nil =>
              cases reached
              cases nested
          | cons => cases reached

/-! ## Members -/

theorem member_of_lookup {α : Type} {default : α} {read : Value → Option α}
    (found : entries.lookup key = some held) : member entries key default read = read held := by
  rw [member, found]

theorem member_congr {α : Type} {others : Entries} {default : α} {read : Value → Option α}
    (same : entries.lookup key = others.lookup key) :
    member entries key default read = member others key default read := by
  rw [member, member, same]

theorem nullable?_of_ne {α : Type} {read : Value → Option α} (given : held ≠ null) :
    nullable? read held = (read held).map some := by
  cases held with
  | null => exact absurd rfl given
  | boolean | integer | real | text | list | table => rfl

theorem ne_null_of_text? {text : String} (isText : held.text? = some text) : held ≠ null := by
  rintro rfl
  cases isText

/-! ## Keys -/

theorem exists_position_of_itemStep? {cs : List Char} {step : Step}
    (read : itemStep? cs = some step) : ∃ position, step = .item position := by
  rw [itemStep?.eq_def] at read
  split at read
  · obtain ⟨position, -, rfl⟩ := Option.map_eq_some_iff.mp read
    exact ⟨position, rfl⟩
  · cases read

theorem exists_positions_of_itemSteps? {cs : List Char} (read : itemSteps? cs = some steps) :
    (∀ step ∈ steps, ∃ position, step = .item position) ∧ (steps = [] → cs = []) := by
  rw [itemSteps?, Option.ite_none_right_eq_some, mapM_eq_some_iff] at read
  obtain ⟨closed, each⟩ := read
  constructor
  · exact forall_mem_of_forall₂ each fun piece _ step found => exists_position_of_itemStep? found
  · rintro rfl
    have none := List.forall₂_nil_right_iff.mp each
    have whole := List.dropLast_append_getLast? [] closed
    rw [← Text.intercalate_splitChars ']' cs, ← whole, none, List.nil_append,
      List.intercalate_singleton]

theorem exists_items_of_partSteps? {part : List Char} (read : partSteps? part = some steps) :
    ∃ name items, steps = .key name :: items ∧
      (∀ step ∈ items, ∃ position, step = .item position) ∧
      (items = [] → part = name.toList) := by
  rw [partSteps?, Option.ite_none_left_eq_some, Option.map_eq_some_iff] at read
  obtain ⟨-, items, found, rfl⟩ := read
  obtain ⟨each, closed⟩ := exists_positions_of_itemSteps? found
  refine ⟨_, items, rfl, each, fun none => ?_⟩
  have whole := List.takeWhile_append_dropWhile (p := isKeyChar) (l := part)
  rw [closed none, List.append_nil] at whole
  rw [String.toList_ofList, whole]

/-- Only parts without positions make up a path of keys. -/
theorem eq_of_flatten_eq {parts : List (List Char)} {read : List (List Step)}
    (each : List.Forall₂ (fun part steps => partSteps? part = some steps) parts read)
    (same : read.flatten = names.map .key) : parts = names.map String.toList := by
  induction each generalizing names with
  | nil =>
      cases names with
      | nil => rfl
      | cons => cases same
  | cons first others ih =>
      obtain ⟨name, items, rfl, positions, closed⟩ := exists_items_of_partSteps? first
      cases names with
      | nil => cases same
      | cons key names =>
          rw [List.flatten_cons, List.map_cons, List.cons_append, List.cons.injEq] at same
          obtain ⟨here, rest⟩ := same
          cases here
          cases items with
          | nil => rw [closed rfl, List.map_cons, ih rest]
          | cons step items =>
              obtain ⟨position, rfl⟩ := positions step List.mem_cons_self
              cases names <;> cases rest

/-- A key that stands for a path of keys is this path with dots in it. -/
theorem toList_eq_of_keyPath (same : keyPath key = names.map .key) :
    key.toList = List.intercalate ['.'] (names.map String.toList) := by
  rw [keyPath] at same
  split at same
  case h_1 parts read =>
    rw [← eq_of_flatten_eq (mapM_eq_some_iff.mp read) same, Text.intercalate_splitChars]
  case h_2 =>
    cases names with
    | nil => cases same
    | cons name names =>
        cases names with
        | nil =>
            cases same
            rw [List.map_cons, List.map_nil, List.intercalate_singleton]
        | cons => cases same

end Chatflow.Config.Value
