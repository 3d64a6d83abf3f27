import ScopeCascade.Bundle.Basic
import ScopeCascade.Environment.Context
import ScopeCascade.Environment.Defaults

/-! The environment variables of a command, in layers: each one overrides those before it. What is
absent has no variable, rather than an empty one. Lines and columns are counted up by one, at which
a build that checks its sums may stop. -/
namespace ScopeCascade

/-- Variables by name, in the order of their names. -/
abbrev Environment := SortedMap String String

namespace Environment

/-- Variables in the order in which they are set. -/
abbrev Layer := List (String × String)

def optional (name : String) (value : Option String) : Layer :=
  (value.map fun value => (name, value)).toList

def optionalPath (name : String) (path : Option FilePath) : Layer :=
  optional name (path.map FilePath.text)

/-- The editor. -/
def ofDefaults (defaults : ProcessDefaults) : Layer :=
  [("TM_APP_NAME", defaults.appName), ("TM_APP_VERSION", defaults.appVersion)] ++
    optionalPath "TM_APP_PATH" defaults.executable ++
    optionalPath "TM_SUPPORT_PATH" defaults.supportPath

/-- The bundle, perhaps with other support files than its own. -/
def ofBundle (bundle : Bundle) (supportPath : Option FilePath) : Layer :=
  [("TM_BUNDLE_PATH", bundle.path.text),
    ("TM_BUNDLE_SUPPORT", (supportPath.getD bundle.supportPath).text),
    ("TM_BUNDLE_UUID", bundle.uuid), ("TM_BUNDLE_NAME", bundle.name)]

/-- The window. -/
def ofWindow (context : EnvironmentContext) : Layer :=
  optionalPath "PWD" context.workingDirectory ++
    optionalPath "TM_PROJECT_DIRECTORY" context.projectRoot

/-- A place, counted from 1 on, and its column from 0 on as well. -/
def ofPosition (overflow : Overflow) (line index column : String) (position : Position) :
    Option Layer := do
  let lineNumber ← overflow.next? position.line
  let columnNumber ← overflow.next? position.column
  return [(line, toString lineNumber), (index, toString position.column),
    (column, toString columnNumber)]

def ofInputStart (overflow : Overflow) (start : Option Position) : Option Layer :=
  match start with
  | some start =>
    ofPosition overflow "TM_INPUT_START_LINE" "TM_INPUT_START_LINE_INDEX" "TM_INPUT_START_COLUMN"
      start
  | none => some []

/-- The edited file; its directory only if the path names one. -/
def ofFile (file : Option FilePath) : Layer :=
  match file with
  | some file =>
    [("TM_FILEPATH", file.text)] ++ optionalPath "TM_FILENAME" file.fileName? ++
      optionalPath "TM_DIRECTORY" (file.parent?.filter fun parent => !parent.isEmpty)
  | none => []

/-- What a text view says apart from places. An empty selection is none. -/
def ofContents (view : TextView) : Layer :=
  optional "TM_SELECTED_TEXT" (view.selectedText.filter fun text => !text.isEmpty) ++
    optional "TM_CURRENT_LINE" view.currentLine ++
    optional "TM_CURRENT_WORD" view.currentWord ++
    optional "TM_SCOPE" (view.scope.map ScopePath.text) ++
    ofFile view.filePath ++
    [("TM_SOFT_TABS", if view.softTabs then "YES" else "NO"),
      ("TM_TAB_SIZE", toString view.tabSize)]

def ofTextView (overflow : Overflow) (view : TextView) : Option Layer := do
  let caret ← ofPosition overflow "TM_LINE_NUMBER" "TM_LINE_INDEX" "TM_COLUMN_NUMBER" view.caret
  let inputStart ← ofInputStart overflow view.inputStart
  return caret ++ inputStart ++ ofContents view

/-- The text view, if there is one. -/
def ofText (overflow : Overflow) (text : Option TextView) : Option Layer :=
  match text with
  | some view => ofTextView overflow view
  | none => some []

/-- All layers of a command's environment, the lowest first. -/
def layers (overflow : Overflow) (defaults : ProcessDefaults) (bundle : Bundle)
    (context : EnvironmentContext) : Option (List Layer) := do
  let text ← ofText overflow context.text
  return [ofDefaults defaults, defaults.shellVariables.entries,
    ofBundle bundle context.bundleSupportPath, bundle.shellVariables.entries,
    context.shellVariables.entries, ofWindow context, text]

/-- The environment of one of a bundle's commands; there is none if the build stops at a sum. -/
def compose (overflow : Overflow) (defaults : ProcessDefaults) (bundle : Bundle)
    (context : EnvironmentContext) : Option Environment :=
  (layers overflow defaults bundle context).map fun layers => .ofList layers.flatten

/-- The variables that all commands of a bundle share. -/
def ofBundleAlone (defaults : ProcessDefaults) (bundle : Bundle) : Environment :=
  .ofList (ofDefaults defaults ++ defaults.shellVariables.entries ++ ofBundle bundle none ++
    bundle.shellVariables.entries)

end Environment

end ScopeCascade
