import ScopeCascade.Setting.Basic

/-! The settings of one record, and what those of several records come to. -/
namespace ScopeCascade

/-- The settings that one record contributes. -/
structure SettingsFragment where
  settings : SettingMap
  keyed : settings.Keyed
deriving DecidableEq

namespace SettingsFragment

instance : EmptyCollection SettingsFragment := ⟨⟨∅, .empty⟩⟩

def insert (fragment : SettingsFragment) (setting : Setting) : SettingsFragment :=
  ⟨SettingMap.add fragment.settings setting, fragment.keyed.add setting⟩

/-- Adds settings in turn. -/
def insertAll (fragment : SettingsFragment) (settings : List Setting) : SettingsFragment :=
  ⟨SettingMap.addAll fragment.settings settings, fragment.keyed.addAll settings⟩

def ofList (settings : List Setting) : SettingsFragment := insertAll ∅ settings

def get? (fragment : SettingsFragment) (key : SettingKey) : Option Setting :=
  fragment.settings.get? key

/-- The settings in the order of their keys. -/
def toList (fragment : SettingsFragment) : List Setting := fragment.settings.values

def size (fragment : SettingsFragment) : Nat := fragment.settings.size

def isEmpty (fragment : SettingsFragment) : Bool := fragment.settings.isEmpty

end SettingsFragment

/-- The settings in force at a place; what is absent is left to the editor. -/
structure EffectiveSettings where
  settings : SettingMap
  keyed : settings.Keyed
deriving DecidableEq

namespace EffectiveSettings

instance : EmptyCollection EffectiveSettings := ⟨⟨∅, .empty⟩⟩

def get? (effective : EffectiveSettings) (key : SettingKey) : Option Setting :=
  effective.settings.get? key

/-- Lays the settings of a record with higher priority over those so far. -/
def apply (effective : EffectiveSettings) (fragment : SettingsFragment) : EffectiveSettings :=
  ⟨SettingMap.addAll effective.settings fragment.toList, effective.keyed.addAll fragment.toList⟩

/-- A key of the record is laid over what is there, every other key stays. -/
theorem get?_apply (effective : EffectiveSettings) (fragment : SettingsFragment)
    (key : SettingKey) :
    (effective.apply fragment).get? key =
      match fragment.get? key with
      | none => effective.get? key
      | some later => some (later.laidOver (effective.get? key)) :=
  SettingMap.get?_addAll_values effective.settings fragment.keyed key

/-- Lays fragments over each other, the lowest priority first. -/
def ofFragments (fragments : List SettingsFragment) : EffectiveSettings := fragments.foldl apply ∅

def toList (effective : EffectiveSettings) : List Setting := effective.settings.values

def size (effective : EffectiveSettings) : Nat := effective.settings.size

def isEmpty (effective : EffectiveSettings) : Bool := effective.settings.isEmpty

def color? (effective : EffectiveSettings) (role : ColorRole) : Option Color :=
  match effective.get? (.color role) with
  | some (.color _ color) => some color
  | _ => none

def fontStyle? (effective : EffectiveSettings) : Option FontStyle :=
  match effective.get? .fontStyle with
  | some (.fontStyle style) => some style
  | _ => none

def indentPattern? (effective : EffectiveSettings) (rule : IndentRule) : Option Pattern :=
  match effective.get? (.indentPattern rule) with
  | some (.indentPattern _ pattern) => some pattern
  | _ => none

def flag? (effective : EffectiveSettings) (flag : Flag) : Option Bool :=
  match effective.get? (.flag flag) with
  | some (.flag _ on) => some on
  | _ => none

def symbolTransformation? (effective : EffectiveSettings) : Option String :=
  match effective.get? .symbolTransformation with
  | some (.symbolTransformation text) => some text
  | _ => none

def smartTypingPairs (effective : EffectiveSettings) : List Pair :=
  match effective.get? .smartTypingPairs with
  | some (.smartTypingPairs pairs) => pairs
  | _ => []

def highlightPairs (effective : EffectiveSettings) : List Pair :=
  match effective.get? .highlightPairs with
  | some (.highlightPairs pairs) => pairs
  | _ => []

def shellVariables? (effective : EffectiveSettings) : Option Variables :=
  match effective.get? .shellVariables with
  | some (.shellVariables values) => some values
  | _ => none

/-- The entries of the command list, hidden ones included. -/
def commandEntries (effective : EffectiveSettings) : List CommandEntry :=
  match effective.get? .commands with
  | some (.commands entries) => entries.values
  | _ => []

/-- The items that are offered. -/
def commands (effective : EffectiveSettings) : List BundleItem :=
  effective.commandEntries.filterMap fun
    | .offer item => some item
    | .hide => none

def custom? (effective : EffectiveSettings) (name : String) : Option Json :=
  match effective.get? (.custom name) with
  | some (.custom _ value) => some value
  | _ => none

/-- The entries under the given keys. -/
def selection (effective : EffectiveSettings) (keys : List SettingKey) :
    List (SettingKey × Setting) :=
  keys.filterMap fun key => (effective.get? key).map fun setting => (key, setting)

theorem selection_keyed (effective : EffectiveSettings) (keys : List SettingKey) :
    SettingMap.Keyed (.ofList (effective.selection keys)) := by
  intro key setting found
  rw [SortedMap.get?_ofList] at found
  obtain ⟨earlier, later, split, _⟩ := List.lookup_eq_some_iff.mp found
  have member : (key, setting) ∈ effective.selection keys := by
    rw [← List.mem_reverse, split]
    simp
  obtain ⟨asked, _, entry⟩ := List.mem_filterMap.mp member
  obtain ⟨held, stored, same⟩ := Option.map_eq_some_iff.mp entry
  cases same
  exact effective.keyed key setting stored

/-- Only the settings of the given keys. -/
def select (effective : EffectiveSettings) (keys : List SettingKey) : EffectiveSettings :=
  ⟨.ofList (effective.selection keys), effective.selection_keyed keys⟩

end EffectiveSettings

end ScopeCascade
