import ScopeCascade.Cascade.Basic
import ScopeCascade.Environment.Defaults
import ScopeCascade.Kdl.Basic

/-! The configuration of the engine: a document with the nodes `editor`, `cascade` and
`environment`, all of which may be absent. The first node of a name counts. How a text is read as a
document is up to a reader, of which nothing is assumed. -/
namespace ScopeCascade

/-- What a field has to hold. -/
inductive FieldType
  | string | boolean
deriving DecidableEq

def FieldType.text : FieldType → String
  | string => "a string"
  | boolean => "a boolean"

/-- Why a file cannot be read. -/
inductive FileError
  | notFound | notText
deriving DecidableEq

def FileError.message : FileError → String
  | notFound => "No such file or directory (os error 2)"
  | notText => "stream did not contain valid UTF-8"

inductive ConfigError
  /-- The text is no document, as the reader says why. -/
  | document (cause : String)
  | invalidValue (block name : String) (expected : FieldType)
  | file (path : FilePath) (cause : FileError)
deriving DecidableEq

namespace ConfigError

/-- The field at fault, as messages name it. -/
def field (block name : String) : String := block ++ "." ++ name

def message : ConfigError → String
  | document cause => "KDL parse error: " ++ cause
  | invalidValue block name expected =>
    "invalid value for " ++ field block name ++ ": expected " ++ expected.text
  | file path cause => "I/O error reading " ++ path.text ++ ": " ++ cause.message

end ConfigError

/-- A node that means nothing where it stands. -/
structure UnknownNode where
  node : String
  foundIn : String
deriving DecidableEq

def UnknownNode.message (unknown : UnknownNode) : String :=
  "unknown node '" ++ unknown.node ++ "' in " ++ unknown.foundIn ++ " will be ignored"

structure Config where
  name : Option String := none
  version : Option String := none
  executable : Option FilePath := none
  supportPath : Option FilePath := none
  cache : Option Bool := none
  /-- Variables for every command. -/
  environment : InsertionMap String String := ∅
  warnings : List UnknownNode := []
deriving DecidableEq

namespace Config

/-- A field of a block: the first argument of the first node with its name. -/
def field? {α : Type} (expected : FieldType) (read : Kdl.Value → Option α) (block : String)
    (document : Kdl.Document) (name : String) : Except ConfigError (Option α) :=
  match document.get? name with
  | none => .ok none
  | some node =>
    match node.argument?.bind read with
    | some value => .ok (some value)
    | none => .error (.invalidValue block name expected)

def stringField? (block : String) (document : Kdl.Document) (name : String) :
    Except ConfigError (Option String) :=
  field? .string Kdl.Value.string? block document name

def boolField? (block : String) (document : Kdl.Document) (name : String) :
    Except ConfigError (Option Bool) :=
  field? .boolean Kdl.Value.bool? block document name

/-- Every node of a block as a name with a text. -/
def stringEntries (block : String) (document : Kdl.Document) :
    Except ConfigError (List (String × String)) :=
  document.mapM fun node =>
    match node.argument?.bind Kdl.Value.string? with
    | some value => .ok (node.name, value)
    | none => .error (.invalidValue block node.name .string)

/-- The nodes with none of the known names. -/
def unknownNodes (foundIn : String) (known : List String) (document : Kdl.Document) :
    List UnknownNode :=
  (document.filter fun node => !known.contains node.name).map fun node => ⟨node.name, foundIn⟩

/-- The children of the first node with a name; none if it has no braces. -/
def block (document : Kdl.Document) (name : String) : Kdl.Document :=
  ((document.get? name).bind (·.children)).getD []

/-- Reads a configuration. Of several faults the first one in the order of these steps counts. -/
def ofDocument (document : Kdl.Document) : Except ConfigError Config := do
  let editor := block document "editor"
  let name ← stringField? "editor" editor "name"
  let version ← stringField? "editor" editor "version"
  let executable ← stringField? "editor" editor "app-path"
  let supportPath ← stringField? "editor" editor "support-path"
  let cascade := block document "cascade"
  let cache ← boolField? "cascade" cascade "cache"
  let environment ← stringEntries "environment" (block document "environment")
  return {
    name, version, cache
    executable := executable.map FilePath.ofText
    supportPath := supportPath.map FilePath.ofText
    environment := .ofList environment
    warnings :=
      unknownNodes "top level" ["editor", "cascade", "environment"] document ++
        unknownNodes "editor" ["name", "version", "app-path", "support-path"] editor ++
        unknownNodes "cascade" ["cache"] cascade }

def parse (reader : Kdl.Reader) (text : String) : Except ConfigError Config :=
  match reader text with
  | .ok document => ofDocument document
  | .error cause => .error (.document cause)

/-- Reads a configuration file, given what it holds if there is one. -/
def load (reader : Kdl.Reader) (path : FilePath) (content : Option ByteArray) :
    Except ConfigError Config :=
  match content with
  | none => .error (.file path .notFound)
  | some bytes =>
    match String.fromUTF8? bytes with
    | some text => parse reader text
    | none => .error (.file path .notText)

/-- What a configuration warns of when it is read. -/
def reports (config : Config) : List Warning :=
  config.warnings.map fun unknown => .configuration unknown.message

/-- A configuration with another one over it, whose values count before its own. -/
def merge (config other : Config) : Config where
  name := other.name.or config.name
  version := other.version.or config.version
  executable := other.executable.or config.executable
  supportPath := other.supportPath.or config.supportPath
  cache := other.cache.or config.cache
  environment := config.environment.union other.environment
  warnings := config.warnings ++ other.warnings

/-- The process defaults, configured values before detected ones. -/
def processDefaults (config : Config) (executable : Option FilePath) : ProcessDefaults :=
  let detected := ProcessDefaults.detect executable
  { appName := config.name.getD detected.appName
    appVersion := config.version.getD detected.appVersion
    executable := config.executable.or detected.executable
    supportPath := config.supportPath.or detected.supportPath
    shellVariables := detected.shellVariables.union config.environment }

def cascadeOptions (config : Config) : CascadeOptions :=
  { cache := config.cache.getD ({} : CascadeOptions).cache }

end Config

end ScopeCascade
