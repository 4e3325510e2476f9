import Chatflow.Proofs.Config.Environment
import Chatflow.Runner.Settings

/-!
# Text settings from the environment

The variable for a text setting decides what is loaded for it, whatever a file and other variables
say, and it keeps no settings from being loaded.  But its text is guessed to be a truth value or a
number where it reads as one, and written again for the setting.
-/

namespace Chatflow.Runner

open Config (Value)
open Config.Value (AgreeBeside Cuts Spares)
open Config.Environment

variable {settings : Settings} {value first second api held : Value} {filter text : String}
  {file : Option (String × Option String)} {before after : Variables}

/-! ## Reading -/

namespace Settings

theorem ofApiValue?_eq_some_iff :
    ofApiValue? filter api = some settings ↔
      settings.logFilter = filter ∧
        ∃ members, api.members? ["api_base_url", "token", "request_timeout_secs"] = some members ∧
          Value.member members "api_base_url" ({} : BotApi.Settings).baseUrl Value.text? =
            some settings.api.baseUrl ∧
          Value.member members "token" none (Value.nullable? Value.text?) = some settings.token ∧
          Value.member members "request_timeout_secs" ({} : BotApi.Settings).timeoutSeconds
            Value.natural? = some settings.api.timeoutSeconds := by
  simp only [ofApiValue?, Option.bind_eq_bind, Option.bind_eq_some_iff]
  constructor
  · rintro ⟨members, found, baseUrl, url, token, secret, seconds, timeout, same⟩
    cases same
    exact ⟨rfl, members, found, url, secret, timeout⟩
  · rintro ⟨rfl, members, found, url, secret, timeout⟩
    exact ⟨members, found, _, url, _, secret, _, timeout, rfl⟩

theorem ofValue?_eq_some_iff :
    ofValue? value = some settings ↔
      Value.member value.entries "log_filter" ({} : Settings).logFilter Value.text? =
          some settings.logFilter ∧
        ((∃ api, value.entries.lookup "telegram" = some api ∧
            ofApiValue? settings.logFilter api = some settings) ∨
          value.entries.lookup "telegram" = none ∧
            settings = { logFilter := settings.logFilter }) := by
  simp only [ofValue?, Option.bind_eq_bind, Option.bind_eq_some_iff]
  cases value.entries.lookup "telegram" with
  | none =>
      constructor
      · rintro ⟨filter, read, ⟨⟩⟩
        exact ⟨read, .inr ⟨rfl, rfl⟩⟩
      · rintro ⟨read, ⟨api, ⟨⟩, -⟩ | ⟨-, same⟩⟩
        exact ⟨_, read, congrArg some same.symm⟩
  | some api =>
      constructor
      · rintro ⟨filter, read, rest⟩
        obtain rfl := (ofApiValue?_eq_some_iff.mp rest).1
        exact ⟨read, .inl ⟨api, rfl, rest⟩⟩
      · rintro ⟨read, ⟨_, ⟨⟩, rest⟩ | ⟨⟨⟩, -⟩⟩
        exact ⟨_, read, rest⟩

structure IsReadable (members : Value.Entries) : Prop where
  baseUrl : ∃ baseUrl, Value.member members "api_base_url" ({} : BotApi.Settings).baseUrl
    Value.text? = some baseUrl
  token : ∃ token, Value.member members "token" none (Value.nullable? Value.text?) = some token
  timeout : ∃ seconds, Value.member members "request_timeout_secs"
    ({} : BotApi.Settings).timeoutSeconds Value.natural? = some seconds

/-- What is given as a list has no table to read members from. -/
theorem isReadable_of_ofValue? (read : ofValue? value = some settings) :
    IsReadable (Value.child value.entries "telegram").entries := by
  obtain ⟨-, ⟨api, found, rest⟩ | ⟨missing, -⟩⟩ := ofValue?_eq_some_iff.mp read
  · obtain ⟨-, members, isRecord, url, secret, timeout⟩ := ofApiValue?_eq_some_iff.mp rest
    rw [Value.child_of_lookup found]
    cases api with
    | table entries =>
        cases isRecord
        exact ⟨⟨_, url⟩, ⟨_, secret⟩, ⟨_, timeout⟩⟩
    | list => exact ⟨⟨_, rfl⟩, ⟨_, rfl⟩, ⟨_, rfl⟩⟩
    | null | boolean | integer | real | text => cases isRecord
  · rw [Value.child, missing]
    exact ⟨⟨_, rfl⟩, ⟨_, rfl⟩, ⟨_, rfl⟩⟩

theorem IsReadable.exists_ofValue? {members : Value.Entries} (readable : IsReadable members)
    (log : Value.member value.entries "log_filter" ({} : Settings).logFilter Value.text? =
      some filter)
    (stands : value.entries.lookup "telegram" = some (.table members)) :
    ∃ settings, ofValue? value = some settings := by
  obtain ⟨⟨baseUrl, url⟩, ⟨token, secret⟩, timeoutSeconds, seconds⟩ := readable
  refine ⟨{ logFilter := filter, token, api := { baseUrl, timeoutSeconds } },
    ofValue?_eq_some_iff.mpr ⟨log, .inl ⟨_, stands, ?_⟩⟩⟩
  exact ofApiValue?_eq_some_iff.mpr ⟨rfl, members, rfl, url, secret, seconds⟩

/-- What a file says decides under which environments settings are loaded. -/
theorem exists_load?_eq (file : Option (String × Option String)) :
    ∃ base : Option Value, ∀ environment, load? file environment =
      base.bind fun base => ofValue? (base.addSource (entries environmentWord environment)) := by
  cases file with
  | none => exact ⟨some _, fun _ => rfl⟩
  | some file =>
      obtain ⟨path, text⟩ := file
      refine ⟨(text.bind (Config.fileEntries? path)).map (Value.addSource (.table [])), fun _ => ?_⟩
      rw [Option.bind_map]
      rfl

end Settings

/-! ## Settings that are texts -/

inductive TextSetting where
  | logFilter
  | apiBaseUrl
  | token
deriving DecidableEq, Repr

namespace TextSetting

def variableName : TextSetting → String
  | logFilter => "FLOWBOT__LOG_FILTER"
  | apiBaseUrl => "FLOWBOT__TELEGRAM__API_BASE_URL"
  | token => "FLOWBOT__TELEGRAM__TOKEN"

def path : TextSetting → List String
  | logFilter => ["log_filter"]
  | apiBaseUrl => ["telegram", "api_base_url"]
  | token => ["telegram", "token"]

def key (setting : TextSetting) : String := ".".intercalate setting.path

def of (settings : Settings) : TextSetting → Option String
  | logFilter => some settings.logFilter
  | apiBaseUrl => some settings.api.baseUrl
  | token => settings.token

variable {setting : TextSetting}

/-- The variable sets the setting, in whatever case its name is written. -/
def IsSetBy (setting : TextSetting) (assignment : String × String) : Prop :=
  keyOf? Settings.environmentWord assignment.1 = some setting.key

/-- The variable sets as a whole what the setting is a member of. -/
def IsCutBy (setting : TextSetting) (assignment : String × String) : Prop :=
  ∃ key ∈ keyOf? Settings.environmentWord assignment.1, Cuts (Value.keyPath key) setting.path

instance (setting : TextSetting) : DecidablePred setting.IsSetBy := fun _ =>
  inferInstanceAs (Decidable (_ = _))

instance (setting : TextSetting) : DecidablePred setting.IsCutBy := fun _ =>
  inferInstanceAs (Decidable (∃ key ∈ _, _))

theorem isSetBy_variableName (setting : TextSetting) (text : String) :
    setting.IsSetBy (setting.variableName, text) := by
  change keyOf? Settings.environmentWord setting.variableName = _
  cases setting <;> decide +kernel

theorem keyPath_key (setting : TextSetting) :
    Value.keyPath setting.key = setting.path.map .key := by
  cases setting <;> decide +kernel

theorem eq_key_of_keyPath {key : String} (same : Value.keyPath key = setting.path.map .key) :
    key = setting.key :=
  String.toList_injective ((Value.toList_eq_of_keyPath same).trans
    (Value.toList_eq_of_keyPath setting.keyPath_key).symm)

theorem exists_members_of_at? {name : String} (read : Settings.ofValue? value = some settings)
    (found : value.at? ["telegram", name] = some held) :
    ∃ members, members.lookup name = some held ∧
      Value.member members "api_base_url" ({} : BotApi.Settings).baseUrl Value.text? =
        some settings.api.baseUrl ∧
      Value.member members "token" none (Value.nullable? Value.text?) = some settings.token := by
  obtain ⟨inner, stands, found⟩ := Value.at?_pair_eq_some_iff.mp found
  obtain ⟨-, ⟨api, same, rest⟩ | ⟨missing, -⟩⟩ := Settings.ofValue?_eq_some_iff.mp read
  · cases stands.symm.trans same
    obtain ⟨-, members, isRecord, url, secret, -⟩ := Settings.ofApiValue?_eq_some_iff.mp rest
    cases isRecord
    exact ⟨inner, found, url, secret⟩
  · cases stands.symm.trans missing

theorem exists_text?_of_ofValue? (read : Settings.ofValue? value = some settings)
    (found : value.at? setting.path = some held) (given : held ≠ .null) :
    ∃ text, held.text? = some text ∧ setting.of settings = some text := by
  cases setting with
  | logFilter =>
      obtain ⟨log, -⟩ := Settings.ofValue?_eq_some_iff.mp read
      rw [path, Value.at?_singleton] at found
      rw [Value.member_of_lookup found] at log
      exact ⟨_, log, rfl⟩
  | apiBaseUrl =>
      obtain ⟨members, found, url, -⟩ := exists_members_of_at? read found
      rw [Value.member_of_lookup found] at url
      exact ⟨_, url, rfl⟩
  | token =>
      obtain ⟨members, found, -, secret⟩ := exists_members_of_at? read found
      rw [Value.member_of_lookup found, Value.nullable?_of_ne given,
        Option.map_eq_some_iff] at secret
      obtain ⟨text, read, same⟩ := secret
      exact ⟨text, read, same.symm⟩

theorem not_isNested_of_ofValue? (read : Settings.ofValue? value = some settings)
    (found : value.at? setting.path = some held) : ¬ held.IsNested := by
  intro nested
  have given : held ≠ .null := by
    rintro rfl
    cases nested
  obtain ⟨text, isText, -⟩ := exists_text?_of_ofValue? read found given
  exact Value.not_isNested_of_text? isText nested

theorem exists_ofValue? (read : Settings.ofValue? first = some settings)
    (agree : AgreeBeside setting.path first second)
    (found : second.at? setting.path = some held) (isText : held.text? = some text) :
    ∃ settings, Settings.ofValue? second = some settings := by
  obtain ⟨log, rest⟩ := Settings.ofValue?_eq_some_iff.mp read
  have readable := Settings.isReadable_of_ofValue? read
  cases setting with
  | logFilter =>
      rw [path, Value.at?_singleton] at found
      refine ⟨{ settings with logFilter := text }, Settings.ofValue?_eq_some_iff.mpr ⟨?_, ?_⟩⟩
      · rwa [Value.member_of_lookup found]
      · rw [← agree.1 "telegram" (by decide)]
        rcases rest with ⟨api, given, read⟩ | ⟨missing, same⟩
        · obtain ⟨-, members⟩ := Settings.ofApiValue?_eq_some_iff.mp read
          exact .inl ⟨api, given, Settings.ofApiValue?_eq_some_iff.mpr ⟨rfl, members⟩⟩
        · exact .inr ⟨missing, by rw [same]⟩
  | apiBaseUrl =>
      obtain ⟨inner, stands, found⟩ := Value.at?_pair_eq_some_iff.mp found
      have beside := agree.2.1
      rw [Value.child_of_lookup stands] at beside
      rw [Value.member_congr (agree.1 "log_filter" (by decide))] at log
      have seconds := beside "request_timeout_secs" (by decide)
      have members : Settings.IsReadable inner :=
        { baseUrl := ⟨text, (Value.member_of_lookup found).trans isText⟩
          token := Value.member_congr (beside "token" (by decide)) ▸ readable.token
          timeout := Value.member_congr seconds ▸ readable.timeout }
      exact members.exists_ofValue? log stands
  | token =>
      obtain ⟨inner, stands, found⟩ := Value.at?_pair_eq_some_iff.mp found
      have beside := agree.2.1
      rw [Value.child_of_lookup stands] at beside
      rw [Value.member_congr (agree.1 "log_filter" (by decide))] at log
      have secret : Value.nullable? Value.text? held = some (some text) := by
        rw [Value.nullable?_of_ne (Value.ne_null_of_text? isText), isText, Option.map_some]
      have seconds := beside "request_timeout_secs" (by decide)
      have members : Settings.IsReadable inner :=
        { baseUrl := Value.member_congr (beside "api_base_url" (by decide)) ▸ readable.baseUrl
          token := ⟨some text, (Value.member_of_lookup found).trans secret⟩
          timeout := Value.member_congr seconds ▸ readable.timeout }
      exact members.exists_ofValue? log stands

theorem spares_of_mem {entry : String × Value} {given : Variables}
    (spared : ∀ assignment ∈ given, ¬ setting.IsCutBy assignment)
    (member : entry ∈ entries Settings.environmentWord given) (other : entry.1 ≠ setting.key) :
    Spares (Value.keyPath entry.1) setting.path := by
  obtain ⟨assignment, found, sets⟩ := exists_of_mem_entries member
  exact ⟨fun cuts => spared assignment found ⟨_, sets, cuts⟩,
    fun same => other (eq_key_of_keyPath same)⟩

theorem not_isCutBy_variableName (setting : TextSetting) (text : String) :
    ¬ setting.IsCutBy (setting.variableName, text) := by
  rintro ⟨key, sets, cuts⟩
  obtain rfl := Option.some.inj (sets.symm.trans (setting.isSetBy_variableName text))
  rw [keyPath_key] at cuts
  exact Value.not_cuts_self _ cuts

theorem of_eq_of_arrivesAs {arrived : String} (arrives : ArrivesAs text arrived)
    (last : ∀ assignment ∈ after, ¬ setting.IsSetBy assignment)
    (spared : ∀ assignment ∈ before ++ after, ¬ setting.IsCutBy assignment)
    (loads : Settings.load? file (before ++ (setting.variableName, text) :: after) =
      some settings) :
    setting.of settings = some arrived := by
  obtain ⟨base, load_eq⟩ := Settings.exists_load?_eq file
  rw [load_eq, Option.bind_eq_some_iff] at loads
  obtain ⟨base, -, read⟩ := loads
  obtain ⟨front, back, split, fresh⟩ := exists_entries_eq (setting.isSetBy_variableName text) last
  have sparing : ∀ entry ∈ back, Spares (Value.keyPath entry.1) setting.path := by
    obtain ⟨earlier, later⟩ := List.forall_mem_append.mp spared
    have all := List.forall_mem_append.mpr
      ⟨earlier, List.forall_mem_cons.mpr ⟨setting.not_isCutBy_variableName text, later⟩⟩
    intro entry member
    refine spares_of_mem all (split ▸ ?_) fun same => fresh (same ▸ List.mem_map_of_mem member)
    exact List.mem_append_right _ (List.mem_cons_of_mem _ member)
  rw [split, Value.addSource_append, Value.addSource_cons, keyPath_key] at read
  have isText := arrives.text?_valueOf
  have plain := Value.not_isNested_of_text? isText
  obtain ⟨held, stands, rfl | nested⟩ :=
    Value.at?_addSource sparing (Value.at?_overlayAt_self plain)
  · have given := Value.ne_null_of_text? isText
    obtain ⟨loaded, same, setTo⟩ := exists_text?_of_ofValue? read stands given
    rw [setTo, ← same, isText]
  · exact absurd nested (not_isNested_of_ofValue? read stands)

theorem isSome_load? (setting : TextSetting) (text : String)
    (unset : ∀ assignment ∈ before ++ after, ¬ setting.IsSetBy assignment)
    (spared : ∀ assignment ∈ before ++ after, ¬ setting.IsCutBy assignment)
    (loads : (Settings.load? file (before ++ after)).isSome) :
    (Settings.load? file (before ++ (setting.variableName, text) :: after)).isSome := by
  obtain ⟨base?, load_eq⟩ := Settings.exists_load?_eq file
  rw [Option.isSome_iff_exists] at loads ⊢
  obtain ⟨settings, loads⟩ := loads
  rw [load_eq, Option.bind_eq_some_iff] at loads
  obtain ⟨base, given, read⟩ := loads
  rw [load_eq, given, Option.bind_some]
  obtain ⟨front, back, split, rest⟩ :=
    exists_entries_append_eq (setting.isSetBy_variableName text) text unset
  have sparing : ∀ entry ∈ back, Spares (Value.keyPath entry.1) setting.path := by
    intro entry member
    have found : entry ∈ entries Settings.environmentWord (before ++ after) :=
      rest ▸ List.mem_append_right _ member
    refine spares_of_mem spared found fun same => ?_
    obtain ⟨assignment, member, sets⟩ := exists_of_mem_entries found
    exact unset assignment member (sets.trans (congrArg some same))
  rw [rest, Value.addSource_append] at read
  rw [split, Value.addSource_append, Value.addSource_cons, keyPath_key]
  obtain ⟨arrived, arrives⟩ := exists_arrivesAs text
  have isText := arrives.text?_valueOf
  have plain := Value.not_isNested_of_text? isText
  have agree := Value.agreeBeside_addSource sparing
    (Value.agreeBeside_overlayAt_self setting.path (base.addSource front) plain)
  obtain ⟨held, stands, rfl | nested⟩ :=
    Value.at?_addSource sparing (Value.at?_overlayAt_self plain)
  · exact exists_ofValue? read agree stands isText
  · -- A table or a list stands there without the variable, too, but no setting is read from it.
    obtain ⟨other, stands, nested⟩ := agree.exists_at? stands nested
    exact absurd nested (not_isNested_of_ofValue? read stands)

end TextSetting

open TextSetting

/-- A setting is what the text of its variable was guessed to be, written again: the text itself
just for truth values in lower case, plain integers, shortest real numbers and all that is no
number.  So no number with a plus sign or an exponent arrives as it is.  What can be loaded without
the variable can be loaded with it.  No other variable sets the setting later, and none sets all
settings of the Bot API at once. -/
theorem text_settings_arrive_as_guessed (file : Option (String × Option String))
    (before after : Variables) (setting : TextSetting) (text : String)
    (last : ∀ assignment ∈ after, ¬ setting.IsSetBy assignment)
    (spared : ∀ assignment ∈ before ++ after, ¬ setting.IsCutBy assignment) :
    (∀ settings,
      Settings.load? file (before ++ (setting.variableName, text) :: after) = some settings →
      ∃ arrived, setting.of settings = some arrived ∧ ArrivesAs text arrived ∧
        (arrived = text ↔ IsKept text) ∧
        (arrived = text → Decimal.IsNumeral text.toList →
          ∀ c ∈ text.toList, Decimal.IsPositionalChar c)) ∧
    ((∀ assignment ∈ before, ¬ setting.IsSetBy assignment) →
      (Settings.load? file (before ++ after)).isSome →
      (Settings.load? file (before ++ (setting.variableName, text) :: after)).isSome) := by
  obtain ⟨arrived, arrives⟩ := exists_arrivesAs text
  refine ⟨fun settings loads => ⟨arrived, ?_, arrives, arrives.eq_iff, fun same => ?_⟩,
    fun unset loads => ?_⟩
  · exact of_eq_of_arrivesAs arrives last spared loads
  · exact (arrives.eq_iff.mp same).isPositionalChar
  · exact isSome_load? setting text (List.forall_mem_append.mpr ⟨unset, last⟩) spared loads

/-- A token with a colon in it is loaded as it is. -/
theorem text_settings_arrive_as_guessed_colon :
    ∃ settings,
      Settings.load? none ([("HOME", "/root")] ++ ("FLOWBOT__TELEGRAM__TOKEN", "999:xyz") ::
        [("flowbot__log_filter", "debug")]) = some settings ∧
      settings.token = some "999:xyz" := by
  obtain ⟨arrives, loads⟩ := text_settings_arrive_as_guessed none [("HOME", "/root")]
    [("flowbot__log_filter", "debug")] .token "999:xyz" (by decide +kernel) (by decide +kernel)
  obtain ⟨settings, loaded⟩ := Option.isSome_iff_exists.mp
    (loads (by decide +kernel) (by decide +kernel))
  obtain ⟨arrived, token, -, kept, -⟩ := arrives settings loaded
  have colon : IsKept "999:xyz" :=
    isKept_of_mark (c := ':') (by decide) (by decide) (by decide)
  exact ⟨settings, loaded, kept.mpr colon ▸ token⟩

/-- A token of digits keeps the zeros in front of it if a file gives it, and loses them if the
environment does. -/
theorem token_loses_zeros :
    Settings.load?
        (some ("flowbot.json", some "\x7b\"telegram\": \x7b\"token\": \"007\"\x7d\x7d")) [] =
          some { token := some "007" } ∧
      Settings.load? none [("FLOWBOT__TELEGRAM__TOKEN", "007")] = some { token := some "7" } :=
  ⟨by decide +kernel, by decide +kernel⟩

end Chatflow.Runner
