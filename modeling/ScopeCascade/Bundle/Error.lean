import ScopeCascade.Json.Decode
import ScopeCascade.Selector.Error

/-! What is wrong with the data of a bundle. -/
namespace ScopeCascade

inductive BundleError
  /-- The selector of a record does not parse. -/
  | selector (bundle text : String) (source : Selector.ParseError)
  /-- A dictionary does not have the expected form. -/
  | malformed (cause : Json.DecodeError)
  | missingField (field : String)

def BundleError.message : BundleError → String
  | selector bundle text source =>
    "bundle " ++ bundle ++ ": invalid scope selector " ++ Text.quoted text ++ ": " ++
      source.message
  | malformed cause => "malformed bundle data: " ++ cause.message
  | missingField field => "missing required field: " ++ field

end ScopeCascade
