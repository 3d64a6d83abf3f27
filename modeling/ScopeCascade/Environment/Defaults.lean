import ScopeCascade.FilePath
import ScopeCascade.InsertionMap
import ScopeCascade.Warning

/-! What every command of a process finds in its environment. -/
namespace ScopeCascade

/-- The editor's identity and directories, and configured variables. -/
structure ProcessDefaults where
  appName : String := "quire"
  appVersion : String := "0.1.0"
  /-- The program file of the editor. -/
  executable : Option FilePath := none
  /-- The directory of support files that all bundles share. -/
  supportPath : Option FilePath := none
  shellVariables : InsertionMap String String := ∅
deriving DecidableEq

namespace ProcessDefaults

/-- The defaults of a process that runs an executable, if it is known. -/
def detect (executable : Option FilePath) : ProcessDefaults := { executable }

end ProcessDefaults

/-- The defaults of the running process, which are set once and for all. -/
structure InstalledDefaults where
  defaults : Option ProcessDefaults := none

namespace InstalledDefaults

/-- Sets the defaults unless they have been set. -/
def install (installed : InstalledDefaults) (defaults : ProcessDefaults) :
    List Warning × InstalledDefaults :=
  match installed.defaults with
  | none => ([], ⟨some defaults⟩)
  | some _ => ([.defaultsInstalled], installed)

/-- The defaults, detected now if none have been set. -/
def get (installed : InstalledDefaults) (executable : Option FilePath) :
    ProcessDefaults × InstalledDefaults :=
  match installed.defaults with
  | some defaults => (defaults, installed)
  | none => (.detect executable, ⟨some (.detect executable)⟩)

end InstalledDefaults

end ScopeCascade
