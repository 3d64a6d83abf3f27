import ScopeCascade.Setting.Normalize

/-! Preferences: settings for the scopes that a selector matches. -/
namespace ScopeCascade

structure Preference where
  uuid : Option String := none
  name : Option String := none
  /-- The text of the selector; the settings apply everywhere without one. -/
  scope : Option String := none
  settings : SettingsFragment

namespace Preference

/-- The fields of a preference's dictionary. -/
structure Fields where
  uuid : Option String := none
  name : Option String := none
  scope : Option String := none
  settings : Json := .null

def form : Json.RecordForm Fields where
  name := "RawPreference"
  fields := ["uuid", "name", "scope", "settings"]
  required := 3
  start := {}
  set fields name value := do
    let optional := Json.decodeOptional Json.decodeString value
    match name with
    | "uuid" => return { fields with uuid := ← optional }
    | "name" => return { fields with name := ← optional }
    | "scope" => return { fields with scope := ← optional }
    | "settings" => return { fields with settings := value }
    | _ => return fields

/-- Reads the dictionary of a preference. -/
def ofJson (engine : Pattern.Engine) (value : Json) :
    Except BundleError (Preference × List Warning) :=
  match Json.decodeRecord form value with
  | .error cause => .error (.malformed cause)
  | .ok fields =>
    let (settings, warnings) := SettingsFragment.ofJson engine fields.settings
    .ok ({ fields with scope := nonBlank fields.scope, settings }, warnings)

end Preference

end ScopeCascade
