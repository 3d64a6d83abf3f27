import ScopeCascade.Setting.Fragment
import ScopeCascade.Warning

/-! Settings from the dictionary of a preference. An entry that makes no sense is dropped with a
warning and does not touch the others; a malformed color is transparent. -/
namespace ScopeCascade

namespace Setting

/-- A flag may also be written as an integer or a word. -/
def flagOfJson? : Json → Option Bool
  | .bool on => some on
  | .number value => value.signed?.map (· ≠ 0)
  | .string word =>
    match word.map Char.toLower with
    | "1" | "true" | "yes" => some true
    | "0" | "false" | "no" => some false
    | _ => none
  | _ => none

def pairOfJson? : Json → Option Pair
  | .array [.string opening, .string closing] => some ⟨opening, closing⟩
  | _ => none

def pairsOfJson? (value : Json) : Option (List Pair) := do
  (← value.elements?).mapM pairOfJson?

/-- The text of a variable. -/
def textOfJson? : Json → Option String
  | .string value => some value
  | .number value => some value.text
  | .bool value => some (if value then "true" else "false")
  | _ => none

/-- A variable as a dictionary of its name and value. -/
def variableOfJson? (entry : Json) : Option (String × String) := do
  let name ← (← entry.field? "name").string?
  return (name, ← textOfJson? (← entry.field? "value"))

/-- Variables as a list of such dictionaries, or as one dictionary from names to values. -/
def variablesOfJson? : Json → Option Variables
  | .array entries => (entries.mapM variableOfJson?).map .ofList
  | .object fields =>
    ((SortedMap.ofList fields).entries.mapM fun (entry : String × Json) =>
      (textOfJson? entry.2).map fun text => (entry.1, text)).map .ofList
  | _ => none

/-- One entry of a command list, which can only hide an item. -/
def exclusionOfJson (entry : String × Json) : List (String × CommandEntry) × List Warning :=
  match entry.2 with
  | .bool false => ([(entry.1, .hide)], [])
  | other => ([], [.ignoredCommand entry.1 other.kind])

/-- The hidden items of a command list. -/
def exclusionsOfJson (entries : List (String × Json)) :
    InsertionMap String CommandEntry × List Warning :=
  (.ofList (entries.flatMap fun entry => (exclusionOfJson entry).1),
    entries.flatMap fun entry => (exclusionOfJson entry).2)

/-- The setting that a value denotes under a key. -/
def ofJson (engine : Pattern.Engine) (key : SettingKey) (value : Json) :
    Option Setting × List Warning :=
  let orDropped (setting : Option Setting) : Option Setting × List Warning :=
    match setting with
    | some setting => (some setting, [])
    | none => (none, [.droppedSetting key.name value.kind])
  match key with
  | .color role => orDropped (value.string?.map fun text => color role (.ofText text))
  | .fontStyle => orDropped (value.string?.map fun text => fontStyle (.parse text))
  | .indentPattern rule =>
    match value.string? with
    | none => orDropped none
    | some source =>
      match Pattern.ofSource engine source with
      | .ok pattern => (some (indentPattern rule pattern), [])
      | .error error => (none, [.droppedPattern key.name error])
  | .flag name => orDropped ((flagOfJson? value).map (flag name))
  | .symbolTransformation => orDropped (value.string?.map symbolTransformation)
  | .smartTypingPairs => orDropped ((pairsOfJson? value).map smartTypingPairs)
  | .highlightPairs => orDropped ((pairsOfJson? value).map highlightPairs)
  | .shellVariables => orDropped ((variablesOfJson? value).map shellVariables)
  | .commands =>
    match value.dictionary? with
    | some entries =>
      let (exclusions, warnings) := exclusionsOfJson entries.entries
      (some (commands exclusions), warnings)
    | none => orDropped none
  | .custom name => (some (custom name value), [])

theorem key_ofJson {engine : Pattern.Engine} {key : SettingKey} {value : Json} {setting : Setting}
    (read : (ofJson engine key value).1 = some setting) : setting.key = key := by
  cases key with
  | indentPattern rule =>
    dsimp only [ofJson] at read
    split at read
    · contradiction
    · split at read
      · cases Option.some.inj read
        rfl
      · contradiction
  | commands =>
    dsimp only [ofJson] at read
    split at read
    · cases Option.some.inj read
      rfl
    · contradiction
  | custom name =>
    cases Option.some.inj read
    rfl
  | _ =>
    -- A value of one form is read and put under the key.
    dsimp only [ofJson] at read
    split at read
    · rename_i held decoded
      obtain ⟨content, _, rfl⟩ := Option.map_eq_some_iff.mp decoded
      cases Option.some.inj read
      rfl
    · contradiction

end Setting

namespace SettingsFragment

/-- The settings of a dictionary, entry by entry in the order of their names. -/
def ofJson (engine : Pattern.Engine) (value : Json) : SettingsFragment × List Warning :=
  match value.dictionary? with
  | none => (∅, [.settingsNotDictionary value.kind])
  | some dictionary =>
    let results := dictionary.entries.map fun (name, value) =>
      Setting.ofJson engine (.ofName name) value
    (.ofList (results.filterMap Prod.fst), results.flatMap Prod.snd)

end SettingsFragment

end ScopeCascade
