import ScopeCascade.Pattern.Backtracking
import ScopeCascade.Setting.Normalize
import Mathlib.Data.List.Nodup

/-! The entries of a dictionary of settings are read one by one. A key comes from one name only, so
no entry reaches the setting of another, and each entry is either kept or dropped with a warning. -/
namespace ScopeCascade

namespace SettingKey

theorem name_ofName (name : String) : (ofName name).name = name := by
  cases found : known.find? fun key => key.name = name with
  | none => rw [ofName, found, Option.getD_none, SettingKey.name]
  | some key =>
    have named := List.find?_some found
    rw [ofName, found]
    exact of_decide_eq_true named

theorem ofName_injective : Function.Injective ofName :=
  Function.LeftInverse.injective name_ofName

end SettingKey

namespace Warning

/-- The name of the setting that the warning says is dropped. -/
def dropped? (warning : Warning) : Option String :=
  if warning.message.startsWith "dropping " then warning.details.lookup "setting" else none

theorem dropped?_droppedSetting (setting : String) (kind : Json.Kind) :
    (droppedSetting setting kind).dropped? = some setting := by
  simp [dropped?, message, details]

theorem dropped?_droppedPattern (setting error : String) :
    (droppedPattern setting error).dropped? = some setting := by
  simp [dropped?, message, details]

theorem dropped?_ignoredCommand (item : String) (kind : Json.Kind) :
    (ignoredCommand item kind).dropped? = none := by
  simp [dropped?, message]

end Warning

namespace Setting

/-- A value is read and no setting is said to be dropped, or it is not and one warning says that the
setting of the name is. -/
inductive Accounted (name : String) : Option Setting × List Warning → Prop
  | kept {setting : Setting} {warnings : List Warning}
    (silent : warnings.filterMap Warning.dropped? = []) : Accounted name (some setting, warnings)
  | dropped {warning : Warning} (named : warning.dropped? = some name) :
    Accounted name (none, [warning])

theorem Accounted.filterMap_dropped? {name : String} {result : Option Setting × List Warning}
    (accounted : Accounted name result) :
    result.2.filterMap Warning.dropped? = if result.1 = none then [name] else [] := by
  cases accounted with
  | kept silent => exact silent
  | dropped named => rw [List.filterMap_cons, named]; rfl

theorem filterMap_dropped?_exclusionsOfJson (entries : List (String × Json)) :
    (exclusionsOfJson entries).2.filterMap Warning.dropped? = [] := by
  rw [List.filterMap_eq_nil_iff]
  intro warning said
  obtain ⟨⟨item, value⟩, _, ignored⟩ := List.mem_flatMap.mp said
  unfold exclusionOfJson at ignored
  split at ignored
  · contradiction
  · rw [List.mem_singleton.mp ignored]
    exact Warning.dropped?_ignoredCommand item _

theorem accounted_ofJson (engine : Pattern.Engine) (key : SettingKey) (value : Json) :
    Accounted key.name (ofJson engine key value) := by
  cases key with
  | indentPattern rule =>
    dsimp only [ofJson]
    split
    · exact .dropped (Warning.dropped?_droppedSetting _ _)
    · split
      · exact .kept rfl
      · exact .dropped (Warning.dropped?_droppedPattern _ _)
  | commands =>
    dsimp only [ofJson]
    split
    · exact .kept (filterMap_dropped?_exclusionsOfJson _)
    · exact .dropped (Warning.dropped?_droppedSetting _ _)
  | custom name => exact .kept rfl
  | _ =>
    -- A value of one form is read, every other one is dropped.
    dsimp only [ofJson]
    split
    · exact .kept rfl
    · exact .dropped (Warning.dropped?_droppedSetting _ _)

end Setting

namespace SettingsFragment

/-- What an entry of a dictionary is read as. -/
def readEntry (engine : Pattern.Engine) (entry : String × Json) : Option Setting × List Warning :=
  Setting.ofJson engine (.ofName entry.1) entry.2

variable {engine : Pattern.Engine}

theorem ofJson_eq {value : Json} {dictionary : Json.Dictionary}
    (held : value.dictionary? = some dictionary) :
    ofJson engine value =
      (.ofList (dictionary.entries.filterMap fun entry => (readEntry engine entry).1),
        dictionary.entries.flatMap fun entry => (readEntry engine entry).2) := by
  rw [ofJson, held]
  simp only [List.filterMap_map, List.flatMap_map]
  rfl

/-- The settings of a key are those of the entries whose name it has. -/
theorem filter_filterMap_readEntry (entries : List (String × Json)) (key : SettingKey) :
    (entries.filterMap fun entry => (readEntry engine entry).1).filter (·.key = key) =
      (entries.filter fun entry => SettingKey.ofName entry.1 = key).filterMap
        fun entry => (readEntry engine entry).1 := by
  have own : ∀ entry : String × Json, (readEntry engine entry).1.filter (·.key = key) =
      if SettingKey.ofName entry.1 = key then (readEntry engine entry).1 else none := by
    intro entry
    cases read : (readEntry engine entry).1 with
    | none => simp
    | some setting =>
      rw [← Setting.key_ofJson read]
      simp [Option.filter]
  simp only [List.filter_filterMap, List.filterMap_filter, own, decide_eq_true_eq]

/-- Only the field of a name is read for its setting. -/
theorem get?_ofJson (engine : Pattern.Engine) (value : Json) (name : String) :
    (ofJson engine value).1.get? (.ofName name) =
      (value.field? name).bind fun held => (Setting.ofJson engine (.ofName name) held).1 := by
  cases is : value.dictionary? with
  | none =>
    rw [ofJson, Json.field?, is]
    rfl
  | some dictionary =>
    -- No other name has the key, so one entry at most is left of the dictionary.
    have single : dictionary.entries.filter
          (fun entry => SettingKey.ofName entry.1 = .ofName name) =
        ((dictionary.get? name).map fun held => (name, held)).toList := by
      simp only [SettingKey.ofName_injective.eq_iff]
      exact filter_key_eq_lookup dictionary.distinct name
    rw [ofJson_eq is, Json.field?, is, Option.bind_some, get?, ofList, insertAll,
      SettingMap.get?_addAll, filter_filterMap_readEntry, single]
    cases dictionary.get? name with
    | none => rfl
    | some held =>
      have read : [(name, held)].filterMap (fun entry => (readEntry engine entry).1) =
          (readEntry engine (name, held)).1.toList := by
        rw [List.filterMap_cons]
        cases (readEntry engine (name, held)).1 <;> rfl
      change List.foldl _ none ([(name, held)].filterMap _) = (readEntry engine (name, held)).1
      rw [read]
      cases (readEntry engine (name, held)).1 <;> rfl

theorem exists_name_of_get?_ofJson {value : Json} {dictionary : Json.Dictionary}
    (is : value.dictionary? = some dictionary) {key : SettingKey}
    (found : (ofJson engine value).1.get? key ≠ none) :
    ∃ name ∈ dictionary.keys, key = .ofName name := by
  by_contra unnamed
  apply found
  have nothing : dictionary.entries.filter (fun entry => SettingKey.ofName entry.1 = key) = [] := by
    rw [List.filter_eq_nil_iff]
    intro entry member same
    exact unnamed ⟨entry.1, List.mem_map_of_mem member, (of_decide_eq_true same).symm⟩
  rw [ofJson_eq is, get?, ofList, insertAll, SettingMap.get?_addAll, filter_filterMap_readEntry,
    nothing]
  rfl

/-- The names of the settings that are dropped, in the order of the dictionary. -/
theorem dropped_ofJson {value : Json} {dictionary : Json.Dictionary}
    (is : value.dictionary? = some dictionary) :
    (ofJson engine value).2.filterMap Warning.dropped? =
      dictionary.keys.filter fun name => (ofJson engine value).1.get? (.ofName name) = none := by
  have each : ∀ entry ∈ dictionary.entries,
      (readEntry engine entry).2.filterMap Warning.dropped? =
        if (ofJson engine value).1.get? (.ofName entry.1) = none then [entry.1] else [] := by
    intro entry member
    have held : dictionary.get? entry.1 = some entry.2 :=
      (mem_iff_lookup dictionary.distinct).mp member
    rw [get?_ofJson, Json.field?, is, Option.bind_some, held, Option.bind_some, readEntry,
      (Setting.accounted_ofJson _ _ _).filterMap_dropped?, SettingKey.name_ofName]
  calc (ofJson engine value).2.filterMap Warning.dropped?
      = dictionary.entries.flatMap fun entry =>
          (readEntry engine entry).2.filterMap Warning.dropped? := by
        rw [ofJson_eq is, List.filterMap_flatMap]
    _ = dictionary.entries.filterMap fun entry =>
          if (ofJson engine value).1.get? (.ofName entry.1) = none then some entry.1 else none := by
        rw [List.filterMap_eq_flatMap_toList]
        refine List.flatMap_congr fun entry member => ?_
        rw [each entry member]
        split <;> rfl
    _ = dictionary.keys.filter fun name => (ofJson engine value).1.get? (.ofName name) = none := by
        rw [SortedMap.keys, ← List.filterMap_eq_filter, List.filterMap_map]
        simp only [Function.comp_def, Option.guard, decide_eq_true_eq]

/-- The keys of the fragment are those of the names that are kept. -/
theorem keys_ofJson_perm (engine : Pattern.Engine) {value : Json} {dictionary : Json.Dictionary}
    (is : value.dictionary? = some dictionary) :
    (ofJson engine value).1.settings.keys.Perm
      ((dictionary.keys.filter fun name =>
        (ofJson engine value).1.get? (.ofName name) ≠ none).map SettingKey.ofName) := by
  have distinct : (ofJson engine value).1.settings.keys.Nodup := SortedMap.distinct _
  have images : ((dictionary.keys.filter fun name =>
      (ofJson engine value).1.get? (.ofName name) ≠ none).map SettingKey.ofName).Nodup :=
    (dictionary.distinct.filter _).map SettingKey.ofName_injective
  refine (List.perm_ext_iff_of_nodup distinct images).mpr fun key => ?_
  have present : key ∈ (ofJson engine value).1.settings.keys ↔
      (ofJson engine value).1.get? key ≠ none :=
    (SortedMap.get?_eq_none_iff _ key).not_left.symm
  rw [present, List.mem_map]
  constructor
  · intro found
    obtain ⟨name, member, rfl⟩ := exists_name_of_get?_ofJson is found
    exact ⟨name, List.mem_filter.mpr ⟨member, by simpa using found⟩, rfl⟩
  · rintro ⟨name, kept, rfl⟩
    simpa using (List.mem_filter.mp kept).2

theorem size_ofJson {value : Json} {dictionary : Json.Dictionary}
    (is : value.dictionary? = some dictionary) :
    (ofJson engine value).1.size + ((ofJson engine value).2.filterMap Warning.dropped?).length =
      dictionary.size := by
  let kept (name : String) : Bool := (ofJson engine value).1.get? (.ofName name) ≠ none
  have settings : (ofJson engine value).1.size = (dictionary.keys.filter kept).length := by
    have images := (keys_ofJson_perm engine is).length_eq
    rw [List.length_map] at images
    exact (SortedMap.length_keys _).symm.trans images
  have dropped : (ofJson engine value).2.filterMap Warning.dropped? =
      dictionary.keys.filter fun name => !kept name := by
    simp [dropped_ofJson is, kept]
  calc (ofJson engine value).1.size + ((ofJson engine value).2.filterMap Warning.dropped?).length
      = (dictionary.keys.filter kept).length +
          (dictionary.keys.filter fun name => !kept name).length := by rw [settings, dropped]
    _ = dictionary.keys.length := (List.length_eq_length_filter_add kept).symm
    _ = dictionary.size := dictionary.length_keys

/-- A name of the dictionary has one setting, or is dropped once. -/
theorem length_filter_add_count {value : Json} {dictionary : Json.Dictionary}
    (is : value.dictionary? = some dictionary) {name : String} (member : name ∈ dictionary.keys) :
    ((ofJson engine value).1.toList.filter (·.key = .ofName name)).length +
      ((ofJson engine value).2.filterMap Warning.dropped?).count name = 1 := by
  have own : (ofJson engine value).1.toList.filter (·.key = .ofName name) =
      ((ofJson engine value).1.get? (.ofName name)).toList :=
    SettingMap.filter_values (ofJson engine value).1.keyed _
  have distinct : (dictionary.keys.filter fun name =>
      (ofJson engine value).1.get? (.ofName name) = none).Nodup := dictionary.distinct.filter _
  rw [own, dropped_ofJson is, distinct.count]
  cases read : (ofJson engine value).1.get? (.ofName name) <;> simp [member, read]

/-- Every entry of a dictionary is read on its own: its setting is the one it gives alone, whatever
stands beside it, and it gives one setting or one warning that it is dropped, which names it. There
are no settings under other keys. What is no dictionary has no settings, with one warning. -/
theorem settings_read_one_by_one (engine : Pattern.Engine) (value : Json) :
    match value.dictionary? with
    | none => ofJson engine value = (∅, [.settingsNotDictionary value.kind])
    | some dictionary =>
      let settings := (ofJson engine value).1
      let dropped := (ofJson engine value).2.filterMap Warning.dropped?
      (∀ name held, dictionary.get? name = some held →
          settings.get? (.ofName name) =
            (ofJson engine (.object [(name, held)])).1.get? (.ofName name)) ∧
        (∀ (other : Json) (name : String), other.field? name = value.field? name →
          (ofJson engine other).1.get? (.ofName name) = settings.get? (.ofName name)) ∧
        (∀ key, settings.get? key ≠ none → ∃ name ∈ dictionary.keys, key = .ofName name) ∧
        (∀ name ∈ dictionary.keys,
          (settings.toList.filter (·.key = .ofName name)).length + dropped.count name = 1) ∧
        settings.size + dropped.length = dictionary.size := by
  cases is : value.dictionary? with
  | none => simp only [ofJson, is]
  | some dictionary =>
    refine ⟨?_, ?_, fun key => exists_name_of_get?_ofJson is,
      fun name => length_filter_add_count is, size_ofJson is⟩
    · intro name held found
      have alone : Json.field? (.object [(name, held)]) name = value.field? name := by
        rw [Json.field?, Json.field?, is, Option.bind_some, found]
        simp [Json.dictionary?, SortedMap.get?_ofList]
      rw [get?_ofJson, get?_ofJson, alone]
    · intro other name same
      rw [get?_ofJson, get?_ofJson, same]

theorem good_value_read_beside_bad :
    let engine : Pattern.Engine := .backtracking
    let good : Json := .string "^\\s*if\\b"
    let value : Json :=
      .object [("decreaseIndentPattern", .string "("), ("fontStyle", .bool true),
        ("increaseIndentPattern", good), ("tabSize", .string "4")]
    let settings := (ofJson engine value).1
    let dropped := (ofJson engine value).2.filterMap Warning.dropped?
    settings.get? (.indentPattern .increase) = some (.indentPattern .increase ⟨"^\\s*if\\b"⟩) ∧
      settings.get? (.ofName "increaseIndentPattern") =
        (ofJson engine (.object [("increaseIndentPattern", good)])).1.get?
          (.ofName "increaseIndentPattern") ∧
      dropped = ["decreaseIndentPattern", "fontStyle"] ∧ settings.size + dropped.length = 4 := by
  intro engine good value settings dropped
  have read := settings_read_one_by_one engine value
  exact ⟨by decide +kernel, read.1 "increaseIndentPattern" good (by decide), by decide +kernel,
    read.2.2.2.2.trans (by decide)⟩

end SettingsFragment

end ScopeCascade
