import ScopeCascade.Json.Decode

/-! Languages that bundles declare. -/
namespace ScopeCascade

structure Language where
  name : String
  /-- The outermost scope of the language's documents. -/
  scopeName : String
  fileTypes : List String
deriving DecidableEq

namespace Language

/-- The fields of a language's dictionary. -/
structure Fields where
  name : Option String := none
  scopeName : Option String := none
  fileTypes : List String := []

def form : Json.RecordForm Fields where
  name := "Language"
  fields := ["name", "scopeName", "fileTypes"]
  required := 2
  start := {}
  set fields name value := do
    match name with
    | "name" => return { fields with name := some (← Json.decodeString value) }
    | "scopeName" => return { fields with scopeName := some (← Json.decodeString value) }
    | "fileTypes" => return { fields with fileTypes := ← Json.decodeList Json.decodeString value }
    | _ => return fields

def ofJson (value : Json) : Except Json.DecodeError Language := do
  let fields ← Json.decodeRecord form value
  return ⟨← Json.require "name" fields.name, ← Json.require "scopeName" fields.scopeName,
    fields.fileTypes⟩

end Language

end ScopeCascade
