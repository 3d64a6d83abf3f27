import ScopeCascade.Kdl.Basic
import ScopeCascade.Kdl.Text
import ScopeCascade.Kdl.Word

/-! Reading KDL documents. Every reader gives what it has read with the text behind it. -/
namespace ScopeCascade.Kdl

/-- A string in any of its forms. -/
def readString (text : List Char) : Option (String × List Char) := do
  let (value, rest) ← match text with
    | '"' :: rest => readQuoted rest
    | '#' :: _ => readRaw text
    | text =>
      let word := text.takeWhile isWordChar
      if Word.isIdentifier word then some (word, text.drop word.length) else none
  if mayFollowString rest then return (String.ofList value, rest) else none

/-- The values that have a name behind a number sign. -/
def keywords : List (String × Value) :=
  [("true", .bool true), ("false", .bool false), ("null", .null), ("nan", .number "#nan"),
    ("inf", .number "#inf"), ("-inf", .number "#-inf")]

/-- A value that is no string. -/
def readAtom (text : List Char) : Option (Value × List Char) :=
  match text with
  | '#' :: rest =>
    keywords.findSome? fun (name, value) =>
      if name.toList.isPrefixOf rest then some (value, rest.drop name.length) else none
  | text =>
    (Word.skipNumber text).map fun rest =>
      (.number (String.ofList (text.take (text.length - rest.length))), rest)

/-- A type between parentheses, if one stands here, and the space behind it. -/
def skipType (text : List Char) : Option (List Char) :=
  match text with
  | '(' :: rest => do
    let (_, rest) ← readString (← skipSpace rest)
    match ← skipSpace rest with
    | ')' :: rest => skipSpace rest
    | _ => none
  | text => some text

def readValue (text : List Char) : Option (Value × List Char) := do
  let text ← skipType text
  match readAtom text with
  | some found => some found
  | none => (readString text).map fun (value, rest) => (.string value, rest)

/-- An argument or a property. -/
def readEntry (text : List Char) : Option ((Option String × Value) × List Char) := do
  let property : Option ((Option String × Value) × List Char) := do
    let (name, rest) ← readString text
    match ← skipSpace rest with
    | '=' :: rest =>
      let (value, rest) ← readValue (← skipSpace rest)
      return ((some name, value), rest)
    | _ => none
  match property with
  | some found => some found
  | none => (readValue text).map fun (value, rest) => ((none, value), rest)

/-- How far the items of a node have been read: children behind a slash and a minus sign end its
entries, and children that count end all but more of the former. -/
inductive Stage
  | entries | children | closed
deriving DecidableEq

/-- The items of a node that have been read. -/
structure Items where
  arguments : List Value := []
  properties : List (String × Value) := []
  children : Option (List Node) := none
  stage : Stage := .entries

def Items.add (items : Items) : Option String × Value → Items
  | (none, value) => { items with arguments := items.arguments ++ [value] }
  | (some name, value) => { items with properties := items.properties ++ [(name, value)] }

/-- The text behind what ends a node, if a node ends here. -/
def skipTerminator (text : List Char) : Option (List Char) :=
  match text with
  | [] => some []
  | '/' :: '/' :: rest => some (rest.dropWhile fun c => !isNewline c)
  | c :: rest => if c = ';' ∨ isNewline c then some rest else none

mutual

/-- Nodes up to the end or a closing brace. Behind a node that nothing ends there are only nodes
that do not count. -/
private def readNodes : Nat → List Char → Option (Document × List Char)
  | 0, _ => none
  | fuel + 1, text => do
    match ← skipBetween fuel text with
    | [] => return ([], [])
    | '}' :: rest => return ([], '}' :: rest)
    | text =>
      let (node, rest) ← readNode fuel text
      match skipTerminator rest with
      | some rest =>
        let (nodes, rest) ← readNodes fuel rest
        return (node :: nodes, rest)
      | none => return ([node], ← skipBetween fuel rest)

/-- Skips what stands between nodes, nodes behind a slash and a minus sign included. -/
private def skipBetween : Nat → List Char → Option (List Char)
  | 0, _ => none
  | fuel + 1, text => do
    match ← skipLines text with
    | '/' :: '-' :: rest =>
      let (_, rest) ← readNode fuel (← skipLines rest)
      skipBetween fuel rest
    | text => return text

/-- A node without what ends it. -/
private def readNode : Nat → List Char → Option (Node × List Char)
  | 0, _ => none
  | fuel + 1, text => do
    let (name, rest) ← readString (← skipType text)
    let (items, rest) ← readItems fuel {} rest
    return (.mk name items.arguments items.properties items.children, rest)

/-- Items of a node. White space stands before each of them, the children excepted. -/
private def readItems : Nat → Items → List Char → Option (Items × List Char)
  | 0, _, _ => none
  | fuel + 1, items, before => do
    let text ← skipSpace before
    let spaced := text.length < before.length
    match text with
    | '/' :: '-' :: rest =>
      match ← skipLines rest with
      | '{' :: rest =>
        if !spaced ∧ items.stage ≠ .closed then none
        let (_, rest) ← readChildren fuel rest
        let stage := if items.stage = .closed then .closed else .children
        readItems fuel { items with stage } rest
      | rest =>
        if !spaced ∨ items.stage ≠ .entries then return (items, text)
        let (_, rest) ← readEntry rest
        readItems fuel items rest
    | '{' :: rest =>
      if items.stage = .closed then none
      let (children, rest) ← readChildren fuel rest
      readItems fuel { items with children := some children, stage := .closed } rest
    | text =>
      let ends := (skipTerminator text).isSome || text.head? = some '}'
      if ends ∨ !spaced ∨ items.stage ≠ .entries then return (items, text)
      let (entry, rest) ← readEntry text
      readItems fuel (items.add entry) rest

/-- Child nodes whose opening brace has been read. -/
private def readChildren : Nat → List Char → Option (Document × List Char)
  | 0, _ => none
  | fuel + 1, text => do
    let (children, rest) ← readNodes fuel text
    match rest with
    | '}' :: rest => return (children, rest)
    | _ => none

end

/-- The document that a text holds, a byte order mark at its start left aside. -/
def Document.ofText? (text : String) : Option Document := do
  let chars := match text.toList with
    | '\uFEFF' :: rest => rest
    | chars => chars
  let (document, rest) ← readNodes (4 * chars.length + 8) chars
  if rest.isEmpty then return document else none

/-- The reader of documents in this notation. -/
def Document.ofText : Reader := fun text =>
  match Document.ofText? text with
  | some document => .ok document
  | none => .error "Failed to parse KDL document"

end ScopeCascade.Kdl
