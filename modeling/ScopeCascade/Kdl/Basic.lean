/-! KDL documents: nodes with a name, arguments, properties and child nodes. -/
namespace ScopeCascade.Kdl

inductive Value
  | string (text : String)
  /-- A number, as written. -/
  | number (literal : String)
  | bool (value : Bool)
  | null
deriving DecidableEq

/-- A node; without braces it has no children, not even none of them. -/
inductive Node
  | mk (name : String) (arguments : List Value) (properties : List (String × Value))
      (children : Option (List Node))

abbrev Document := List Node

namespace Node

def name : Node → String
  | mk name _ _ _ => name

def arguments : Node → List Value
  | mk _ arguments _ _ => arguments

def children : Node → Option Document
  | mk _ _ _ children => children

/-- The first argument. -/
def argument? (node : Node) : Option Value := node.arguments.head?

end Node

/-- A reader of documents: what a text holds, or why it is no document. -/
abbrev Reader := String → Except String Document

/-- The first node with a name. -/
def Document.get? (document : Document) (name : String) : Option Node :=
  document.find? (·.name = name)

def Value.string? : Value → Option String
  | string text => some text
  | _ => none

def Value.bool? : Value → Option Bool
  | bool value => some value
  | _ => none

end ScopeCascade.Kdl
