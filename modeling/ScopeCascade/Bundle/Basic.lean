import ScopeCascade.Bundle.Language
import ScopeCascade.Bundle.Preference
import ScopeCascade.FilePath

/-! Bundles: languages, preferences and items that share an identifier and a directory. -/
namespace ScopeCascade

structure Bundle where
  uuid : String
  name : String
  path : FilePath
  /-- Variables for every command of the bundle. -/
  shellVariables : Variables := ∅
  languages : List Language := []
  preferences : List Preference := []
  items : List BundleItem := []

namespace Bundle

/-- The directory of the files that the bundle's commands use. -/
def supportPath (bundle : Bundle) : FilePath := bundle.path.join (.ofText "Support")

/-- The first item with an identifier. -/
def item? (bundle : Bundle) (uuid : String) : Option BundleItem :=
  bundle.items.find? (·.uuid = uuid)

end Bundle

end ScopeCascade
