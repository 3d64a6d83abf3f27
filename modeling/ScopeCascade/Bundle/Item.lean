import ScopeCascade.Bundle.Error

/-! Bundle items: the commands and snippets that menus offer. -/
namespace ScopeCascade

/-- Whether something is offered with a selection, without one, or always. -/
inductive SelectionRequirement
  | any | required | forbidden
deriving DecidableEq, Inhabited

namespace SelectionRequirement

def admits (requirement : SelectionRequirement) (hasSelection : Bool) : Bool :=
  match requirement with
  | any => true
  | required => hasSelection
  | forbidden => !hasSelection

def variants : List (String × SelectionRequirement) :=
  [("any", any), ("required", required), ("forbidden", forbidden)]

def name : SelectionRequirement → String
  | any => "any"
  | required => "required"
  | forbidden => "forbidden"

def ofJson (value : Json) : Except Json.DecodeError SelectionRequirement :=
  Json.decodeVariant variants value

end SelectionRequirement

/-- What an item does. -/
inductive ItemKind
  /-- A shell command is run; `input` names the text that it reads. -/
  | command (command : String) (input fallbackInput output : Option String)
  /-- Text is inserted. -/
  | snippet (content : String)
deriving DecidableEq

structure BundleItem where
  uuid : String
  name : String
  /-- The selector of the scopes where the item is offered; everywhere without one. -/
  scope : Option String := none
  keyEquivalent : Option String := none
  tabTrigger : Option String := none
  selection : SelectionRequirement := .any
  kind : ItemKind
deriving DecidableEq

/-- A selector text that is blank stands for none. -/
def nonBlank (scope : Option String) : Option String :=
  scope.filter fun text => !Text.allBlank text.toList

namespace ItemKind

def isCommand : ItemKind → Bool
  | command _ _ _ _ => true
  | snippet _ => false

/-- A command that reads the selection and nothing instead of it requires one. -/
def impliedSelection : ItemKind → SelectionRequirement
  | command _ (some "selection") none _ => .required
  | _ => .any

end ItemKind

namespace BundleItem

def isCommand (item : BundleItem) : Bool := item.kind.isCommand

/-- The fields of an item's dictionary. -/
structure Fields where
  uuid : Option String := none
  name : Option String := none
  scope : Option String := none
  keyEquivalent : Option String := none
  tabTrigger : Option String := none
  selection : Option SelectionRequirement := none
  command : Option String := none
  content : Option String := none
  input : Option String := none
  fallbackInput : Option String := none
  output : Option String := none

def form : Json.RecordForm Fields where
  name := "RawItem"
  fields := ["uuid", "name", "scope", "keyEquivalent", "tabTrigger", "selection", "command",
    "content", "input", "fallbackInput", "output"]
  required := 11
  start := {}
  set fields name value := do
    let optional := Json.decodeOptional Json.decodeString value
    match name with
    | "uuid" => return { fields with uuid := some (← Json.decodeString value) }
    | "name" => return { fields with name := some (← Json.decodeString value) }
    | "scope" => return { fields with scope := ← optional }
    | "keyEquivalent" => return { fields with keyEquivalent := ← optional }
    | "tabTrigger" => return { fields with tabTrigger := ← optional }
    | "selection" =>
      return { fields with
        selection := ← Json.decodeOptional SelectionRequirement.ofJson value }
    | "command" => return { fields with command := ← optional }
    | "content" => return { fields with content := ← optional }
    | "input" => return { fields with input := ← optional }
    | "fallbackInput" => return { fields with fallbackInput := ← optional }
    | "output" => return { fields with output := ← optional }
    | _ => return fields

/-- What the fields say that the item does; a command counts before content. -/
def Fields.kind? (fields : Fields) : Option ItemKind :=
  match fields.command, fields.content with
  | some command, _ => some (.command command fields.input fields.fallbackInput fields.output)
  | none, some content => some (.snippet content)
  | none, none => none

def decodeFields (value : Json) : Except Json.DecodeError (String × String × Fields) := do
  let fields ← Json.decodeRecord form value
  return (← Json.require "uuid" fields.uuid, ← Json.require "name" fields.name, fields)

/-- Reads the dictionary of a command or a snippet. -/
def ofJson (value : Json) : Except BundleError BundleItem :=
  match decodeFields value with
  | .error cause => .error (.malformed cause)
  | .ok (uuid, name, fields) =>
    match fields.kind? with
    | none => .error (.missingField "command or content")
    | some kind =>
      .ok {
        uuid, name, kind
        scope := nonBlank fields.scope
        keyEquivalent := fields.keyEquivalent
        tabTrigger := fields.tabTrigger
        selection := fields.selection.getD kind.impliedSelection }

end BundleItem

end ScopeCascade
