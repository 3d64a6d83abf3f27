import ScopeCascade.Bundle.Item
import ScopeCascade.Color
import ScopeCascade.FontStyle
import ScopeCascade.InsertionMap
import ScopeCascade.Pattern.Basic
import ScopeCascade.Setting.Key

/-! Settings with their values. -/
namespace ScopeCascade

/-- An opening and a closing text, such as two parentheses. -/
structure Pair where
  opening : String
  closing : String
deriving DecidableEq

/-- An entry of the command list. -/
inductive CommandEntry
  /-- The item is offered. -/
  | offer (item : BundleItem)
  /-- An item that a broader scope offers is hidden. -/
  | hide
deriving DecidableEq

abbrev Variables := InsertionMap String String

inductive Setting
  | color (role : ColorRole) (color : Color)
  | fontStyle (style : FontStyle)
  | indentPattern (rule : IndentRule) (pattern : Pattern)
  | flag (which : Flag) (on : Bool)
  | symbolTransformation (text : String)
  | smartTypingPairs (pairs : List Pair)
  | highlightPairs (pairs : List Pair)
  | shellVariables (values : Variables)
  /-- Entries by the identifier of the item. -/
  | commands (entries : InsertionMap String CommandEntry)
  | custom (name : String) (value : Json)
deriving DecidableEq

namespace Setting

def key : Setting → SettingKey
  | color role _ => .color role
  | fontStyle _ => .fontStyle
  | indentPattern rule _ => .indentPattern rule
  | flag which _ => .flag which
  | symbolTransformation _ => .symbolTransformation
  | smartTypingPairs _ => .smartTypingPairs
  | highlightPairs _ => .highlightPairs
  | shellVariables _ => .shellVariables
  | commands _ => .commands
  | custom name _ => .custom name

/-- A setting followed by a later one of the same key. -/
def merge : Setting → Setting → Setting
  | shellVariables earlier, shellVariables later => shellVariables (earlier.union later)
  | commands earlier, commands later => commands (earlier.union later)
  | _, later => later

theorem key_merge (earlier later : Setting) : (merge earlier later).key = later.key := by
  cases earlier <;> cases later <;> rfl

theorem merge_of_override {earlier later : Setting} (override : later.key.mergePolicy = .override) :
    merge earlier later = later := by
  cases earlier <;> cases later <;> first | rfl | contradiction

/-- A setting laid over the one held so far, if there is one. -/
def laidOver (held : Option Setting) (later : Setting) : Setting :=
  (held.map (merge · later)).getD later

theorem key_laidOver (held : Option Setting) (later : Setting) :
    (laidOver held later).key = later.key := by
  cases held with
  | none => rfl
  | some earlier => exact key_merge earlier later

/-- What stands under a key when a later setting, if there is one, is laid over an earlier one. -/
def stacked (earlier : Option Setting) : Option Setting → Option Setting
  | none => earlier
  | some later => some (later.laidOver earlier)

end Setting

/-- Settings by key. -/
abbrev SettingMap := SortedMap SettingKey Setting

namespace SettingMap

/-- Adds a setting; it is merged with one that has its key. -/
def add (map : SettingMap) (setting : Setting) : SettingMap :=
  map.insertWith Setting.merge setting.key setting

theorem get?_add (map : SettingMap) (setting : Setting) (key : SettingKey) :
    (map.add setting).get? key =
      if key = setting.key then some (setting.laidOver (map.get? key)) else map.get? key := by
  rw [add, SortedMap.get?_insertWith]
  split
  · rename_i same
    rw [same, Setting.laidOver]
  · rfl

def addAll (map : SettingMap) (settings : List Setting) : SettingMap := settings.foldl add map

/-- Only the settings of a key decide what stands there, laid over each other in turn. -/
theorem get?_addAll (map : SettingMap) (settings : List Setting) (key : SettingKey) :
    (map.addAll settings).get? key =
      (settings.filter (·.key = key)).foldl (fun held later => some (later.laidOver held))
        (map.get? key) := by
  induction settings generalizing map with
  | nil => rfl
  | cons setting rest ih =>
    change ((map.add setting).addAll rest).get? key = _
    rw [ih, get?_add, List.filter_cons]
    by_cases same : setting.key = key
    · rw [if_pos same.symm, if_pos (by simpa using same), List.foldl_cons]
    · rw [if_neg (Ne.symm same), if_neg (by simpa using same)]

/-- Every setting stands under its own key. -/
def Keyed (map : SettingMap) : Prop :=
  ∀ key setting, map.get? key = some setting → setting.key = key

namespace Keyed

theorem empty : Keyed ∅ := by
  intro key setting found
  contradiction

theorem add {map : SettingMap} (keyed : map.Keyed) (setting : Setting) :
    (map.add setting).Keyed := by
  intro key found located
  rw [get?_add] at located
  split at located
  · rename_i same
    rw [← Option.some.inj located, Setting.key_laidOver, same]
  · exact keyed key found located

theorem addAll {map : SettingMap} (keyed : map.Keyed) (settings : List Setting) :
    (map.addAll settings).Keyed := by
  induction settings generalizing map with
  | nil => exact keyed
  | cons setting rest ih => exact ih (keyed.add setting)

end Keyed

/-- The settings of a map that belong to a key are the one that stands under it. -/
theorem filter_values {map : SettingMap} (keyed : map.Keyed) (key : SettingKey) :
    map.values.filter (·.key = key) = (map.get? key).toList := by
  have own : ∀ entry ∈ map.entries, entry.2.key = entry.1 := fun entry member =>
    keyed entry.1 entry.2 ((mem_iff_lookup map.distinct).mp member)
  have same : map.entries.filter (fun entry => entry.2.key = key) =
      map.entries.filter (fun entry => entry.1 = key) :=
    List.filter_congr fun entry member => by rw [own entry member]
  calc map.values.filter (·.key = key)
      = (map.entries.filter (fun entry => entry.2.key = key)).map Prod.snd :=
        List.filter_map
    _ = ((map.get? key).map fun setting => (key, setting)).toList.map Prod.snd := by
        rw [same, filter_key_eq_lookup map.distinct]
        rfl
    _ = (map.get? key).toList := by cases map.get? key <;> rfl

/-- The settings of a second map laid over those of the first. -/
theorem get?_addAll_values (map : SettingMap) {later : SettingMap} (keyed : later.Keyed)
    (key : SettingKey) :
    (map.addAll later.values).get? key = Setting.stacked (map.get? key) (later.get? key) := by
  rw [get?_addAll, filter_values keyed]
  cases later.get? key <;> rfl

end SettingMap

end ScopeCascade
