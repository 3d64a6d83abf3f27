import ScopeCascade.FilePath
import ScopeCascade.InsertionMap
import ScopeCascade.Scope.Path

/-! Where a command is invoked. -/
namespace ScopeCascade

/-- A line and a column, from 0 on. -/
structure Position where
  line : USize := 0
  column : USize := 0
deriving DecidableEq

/-- What a build of the program does with a sum that does not fit into a machine word. -/
inductive Overflow
  /-- It stops. -/
  | checked
  /-- It goes on from zero. -/
  | wrapping
deriving DecidableEq

/-- The number after a machine word, if the program gets that far. -/
def Overflow.next? (overflow : Overflow) (number : USize) : Option USize :=
  match overflow with
  | .checked => if number.toNat + 1 < USize.size then some (number + 1) else none
  | .wrapping => some (number + 1)

/-- The text view that a command is invoked from. -/
structure TextView where
  caret : Position := {}
  /-- Where the text that the command reads starts, unless it is the caret. -/
  inputStart : Option Position := none
  selectedText : Option String := none
  currentLine : Option String := none
  currentWord : Option String := none
  scope : Option ScopePath := none
  filePath : Option FilePath := none
  softTabs : Bool := false
  tabSize : USize := 8

structure EnvironmentContext where
  /-- Stands for the bundle's own directory of support files. -/
  bundleSupportPath : Option FilePath := none
  /-- Shell variables in force at the caret. -/
  shellVariables : InsertionMap String String := ∅
  workingDirectory : Option FilePath := none
  projectRoot : Option FilePath := none
  text : Option TextView := none

end ScopeCascade
