import ScopeCascade.Bundle.Error

/-! What is reported without stopping. -/
namespace ScopeCascade

inductive Warning
  /-- Settings that are no dictionary count as none. -/
  | settingsNotDictionary (kind : Json.Kind)
  | droppedSetting (setting : String) (kind : Json.Kind)
  /-- What is wrong with the pattern is what the library of regular expressions says. -/
  | droppedPattern (setting error : String)
  | ignoredCommand (item : String) (kind : Json.Kind)
  /-- A record on its own, or one of a bundle, whose selector does not parse. -/
  | rejectedRecord (bundle : Option String) (error : BundleError)
  | configuration (text : String)
  | defaultsInstalled

namespace Warning

def message : Warning → String
  | settingsNotDictionary _ => "preference settings are not a dictionary"
  | droppedSetting _ _ => "dropping setting with unexpected value"
  | droppedPattern _ _ => "dropping invalid indentation pattern"
  | ignoredCommand _ _ => "ignoring command list entry"
  | rejectedRecord _ _ => "rejecting preference record"
  | configuration _ => "config warning"
  | defaultsInstalled => "process environment defaults already populated"

/-- What the warning is about, by name. -/
def details : Warning → List (String × String)
  | settingsNotDictionary kind => [("kind", kind.name)]
  | droppedSetting setting kind => [("setting", setting), ("kind", kind.name)]
  | droppedPattern setting error => [("setting", setting), ("error", error)]
  | ignoredCommand item kind => [("item", item), ("kind", kind.name)]
  | rejectedRecord bundle error =>
    (bundle.map fun bundle => ("bundle", bundle)).toList ++ [("error", error.message)]
  | configuration text => [("warning", text)]
  | defaultsInstalled => []

end Warning

end ScopeCascade
