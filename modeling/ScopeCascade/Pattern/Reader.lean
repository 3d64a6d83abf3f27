import ScopeCascade.Pattern.ClassReader

/-! Reading regular expressions from text. A text that is none has no reading. -/
namespace ScopeCascade.Pattern

structure Flags where
  ignoreCase : Bool := false
  multiLine : Bool := false
  dotMatchesLineFeed : Bool := false
  swapGreed : Bool := false
  freeSpacing : Bool := false

/-- What is left to read, and what has been read of flags and groups. -/
structure Reading where
  text : List Char
  flags : Flags := {}
  /-- How many groups have been opened. -/
  groups : Nat := 0
  names : List (List Char × Nat) := []
  /-- The widths of the groups that have been closed. -/
  widths : List (Nat × Width) := []
  /-- The groups that have been referred to, opened or not. -/
  referred : List Nat := []
  /-- Whether a group has been referred to by number. -/
  numbered : Bool := false

namespace Reading

/-- The deepest nesting of parentheses. -/
def maxDepth : Nat := 64

/-- Counts of a repetition lie below this. -/
def countLimit : Nat := 0x100000000

abbrev Read := StateT Reading Option

private def ahead : Read (List Char) := do return (← get).text

private def setRest (rest : List Char) : Read Unit := modify ({ · with text := rest })

/-- What is being skipped between two items. -/
private inductive Skipping
  | blanks | lineComment | groupComment

private def skip (freeSpacing : Bool) : Skipping → List Char → Option (List Char)
  | .blanks, '(' :: '?' :: '#' :: rest => skip freeSpacing .groupComment rest
  | .blanks, c :: rest =>
    if freeSpacing ∧ c = '#' then skip freeSpacing .lineComment rest
    else if freeSpacing ∧ (c = ' ' ∨ c = '\r' ∨ c = '\n' ∨ c = '\t') then
      skip freeSpacing .blanks rest
    else some (c :: rest)
  | .lineComment, c :: rest => skip freeSpacing (if c = '\n' then .blanks else .lineComment) rest
  | .groupComment, ')' :: rest => skip freeSpacing .blanks rest
  | .groupComment, '\\' :: _ :: rest => skip freeSpacing .groupComment rest
  | .groupComment, _ :: rest => skip freeSpacing .groupComment rest
  | .groupComment, [] => none
  | _, [] => some []

private def skipBlanks : Read Unit := do
  let reading ← get
  setRest (← skip reading.flags.freeSpacing .blanks reading.text)

private def expect (c : Char) : Read Unit := do
  match ← ahead with
  | first :: rest => if first = c then setRest rest else failure
  | [] => failure

/-- Digits that denote a number of at most 64 bits. -/
private def readCount : Read (Option Nat) := do
  let text ← ahead
  let digits := text.takeWhile Char.isDigit
  let value := Text.readDecimal digits
  if digits.isEmpty ∨ 0x10000000000000000 ≤ value then return none
  setRest (text.drop digits.length)
  return some value

/-- The counts of a repetition whose opening brace has been read. -/
private def readCounts : Read (Nat × Option Nat) := do
  skipBlanks
  let least ← match ← ahead with
    | ',' :: _ => pure 0
    | _ => match ← readCount with
      | some least => pure least
      | none => failure
  skipBlanks
  match ← ahead with
  | '}' :: rest => setRest rest; return (least, some least)
  | ',' :: rest =>
    setRest rest
    skipBlanks
    let most ← readCount
    skipBlanks
    expect '}'
    return (least, most)
  | _ => failure

/-- A repetition mark, if one stands here. -/
private def readMark : Read (Option (Nat × Option Nat)) := do
  match ← ahead with
  | '?' :: rest => setRest rest; return some (0, some 1)
  | '*' :: rest => setRest rest; return some (0, none)
  | '+' :: rest => setRest rest; return some (1, none)
  | '{' :: rest => (do setRest rest; return some (← readCounts)) <|> pure none
  | _ => return none

/-- A reference to a group; whether the group exists is seen at the end. -/
private def referTo (group : Nat) : Read Node := do
  let reading ← get
  set { reading with referred := group :: reading.referred }
  return .reference group reading.flags.ignoreCase ((reading.widths.lookup group).getD ⟨0, false⟩)

private def single (c : Char) (fold : Bool) : Node := .char ((CharSet.single c).foldedIf fold)

/-- What an escape matches. A search begins at the start of the text. -/
private def nodeOfEscape : Escape → Read Node
  | .literal c => return single c false
  | .code c => do return single c (← get).flags.ignoreCase
  | .set set => return .char set
  | .assertion condition => return .assertion condition
  | .searchStart => return .atomic (.assertion .textStart)
  | .matchStart => return .atomic .empty
  | .numbered group => do
    modify ({ · with numbered := true })
    referTo group
  | .named name => do
    match (← get).names.lookup name with
    | some group => referTo group
    | none => if name.all Char.isDigit then referTo (Text.readDecimal name) else failure
  | .relative back distance => do
    let groups := (← get).groups
    referTo (if back then groups + 1 - distance else groups + distance)

private def setFlag (flags : Flags) (on : Bool) : Char → Option Flags
  | 'i' => some { flags with ignoreCase := on }
  | 'm' => some { flags with multiLine := on }
  | 's' => some { flags with dotMatchesLineFeed := on }
  | 'U' => some { flags with swapGreed := on }
  | 'x' => some { flags with freeSpacing := on }
  | 'u' => if on then some flags else none
  | _ => none

/-- Flags up to a colon, which opens a group, or a closing parenthesis; at least one flag stands
before the latter, and behind a minus sign before either. -/
private def readFlags : Nat → Bool → Bool → Read Bool
  | 0, _, _ => failure
  | fuel + 1, negated, fresh => do
    skipBlanks
    match ← ahead with
    | ')' :: rest => if fresh then failure else setRest rest; return false
    | ':' :: rest => if fresh ∧ negated then failure else setRest rest; return true
    | '-' :: rest => if negated then failure else setRest rest; readFlags fuel true fresh
    | c :: rest =>
      match setFlag (← get).flags (!negated) c with
      | some flags => modify ({ · with text := rest, flags }); readFlags fuel negated false
      | none => failure
    | [] => failure

/-- Opens the next group. -/
private def openGroup (name : Option (List Char)) : Read Nat := do
  modify fun reading =>
    let groups := reading.groups + 1
    { reading with
      groups
      names := match name with
        | some name => (name, groups) :: reading.names
        | none => reading.names }
  return (← get).groups

/-- The group with a body that has been read. -/
private def closeGroup (index : Nat) (body : Node) : Read Node := do
  modify fun reading => { reading with widths := (index, body.width) :: reading.widths }
  return .group index body

mutual

/-- Alternatives. Where there is only one, groups may not have both names and references by
number. -/
private def alternation : Nat → Nat → Read Node
  | 0, _ => failure
  | fuel + 1, depth => do
    let first ← branch fuel depth
    skipBlanks
    match ← ahead with
    | '|' :: _ => return .alt (first :: (← alternatives fuel depth))
    | _ =>
      let reading ← get
      if reading.numbered ∧ !reading.names.isEmpty then failure
      return first

private def alternatives : Nat → Nat → Read (List Node)
  | 0, _ => failure
  | fuel + 1, depth => do
    match ← ahead with
    | '|' :: rest =>
      setRest rest
      let node ← branch fuel depth
      skipBlanks
      return node :: (← alternatives fuel depth)
    | _ => return []

/-- Items in a row. -/
private def branch : Nat → Nat → Read Node
  | 0, _ => failure
  | fuel + 1, depth => return .inRow (← items fuel depth)

/-- Items up to one that takes nothing; those that match the empty text only are left out. -/
private def items : Nat → Nat → Read (List Node)
  | 0, _ => failure
  | fuel + 1, depth => do
    let before ← ahead
    if before.isEmpty then return []
    let node ← piece fuel depth
    if (← ahead).length = before.length then return []
    let rest ← items fuel depth
    return match node with
      | .seq [] => rest
      | node => node :: rest

/-- An item with the repetition behind it. A repeated item takes its flags into account where the
repetition ends. -/
private def piece : Nat → Nat → Read Node
  | 0, _ => failure
  | fuel + 1, depth => do
    let node ← atom fuel depth
    skipBlanks
    match ← readMark with
    | none => return node
    | some (least, most) =>
      let fits := least < countLimit ∧ most.all fun most => least ≤ most && most < countLimit
      if !node.isRepeatable ∨ !fits then failure
      skipBlanks
      let lazy ← match ← ahead with
        | '?' :: rest => setRest rest; pure true
        | _ => pure false
      let greedy := lazy == (← get).flags.swapGreed
      let node := Node.iterate node least most greedy
      match ← ahead with
      | '+' :: rest => setRest rest; return .atomic node
      | _ => return node

private def atom : Nat → Nat → Read Node
  | 0, _ => failure
  | fuel + 1, depth => do
    skipBlanks
    let flags := (← get).flags
    match ← ahead with
    | [] => return .empty
    | '.' :: rest =>
      setRest rest
      return .char (if flags.dotMatchesLineFeed then .all else (CharSet.single '\n').complement)
    | '^' :: rest =>
      setRest rest
      return .assertion (if flags.multiLine then .lineStart else .textStart)
    | '$' :: rest =>
      setRest rest
      return .assertion (if flags.multiLine then .lineEnd else .textEnd)
    | '(' :: rest => setRest rest; group fuel (depth + 1)
    | '\\' :: rest =>
      let (escape, rest) ← Escape.read false (skip flags.freeSpacing .blanks) rest
      setRest rest
      nodeOfEscape escape
    | '[' :: rest =>
      let (set, rest) ← CharSet.read flags.ignoreCase (skip flags.freeSpacing .blanks) rest
      setRest rest
      return .char set
    | c :: rest =>
      if c = '+' ∨ c = '*' ∨ c = '?' ∨ c = '|' ∨ c = ')' then return .empty
      setRest rest
      return single c flags.ignoreCase

/-- A group whose opening parenthesis has been read. Flags that are set inside it stay in force
behind it, unless it opens with flags and a colon. -/
private def group : Nat → Nat → Read Node
  | 0, _ => failure
  | fuel + 1, depth => do
    if maxDepth ≤ depth then failure
    skipBlanks
    let inside (rest : List Char) : Read Node := do
      setRest rest
      let body ← alternation fuel depth
      expect ')'
      return body
    let named (close : Char) (rest : List Char) : Read Node := do
      let (name, rest) ← Escape.readName close rest
      let index ← openGroup (some name)
      closeGroup index (← inside rest)
    match ← ahead with
    | '?' :: '=' :: rest => return .look false false (← inside rest)
    | '?' :: '!' :: rest => return .look false true (← inside rest)
    | '?' :: '<' :: '=' :: rest => return .look true false (← inside rest)
    | '?' :: '<' :: '!' :: rest => return .look true true (← inside rest)
    | '?' :: '<' :: rest | '?' :: 'P' :: '<' :: rest => named '>' rest
    | '?' :: '\'' :: rest => named '\'' rest
    | '?' :: 'P' :: '=' :: rest =>
      let (name, rest) ← Escape.readName ')' rest
      setRest rest
      nodeOfEscape (.named name)
    | '?' :: '>' :: rest => return .atomic (← inside rest)
    | '?' :: rest =>
      let flags := (← get).flags
      setRest rest
      if ← readFlags (rest.length + 1) false true then
        let body ← inside (← get).text
        modify ({ · with flags })
        return body
      else return .empty
    | rest =>
      let index ← openGroup none
      closeGroup index (← inside rest)

end

/-- The expression that a text denotes, and the groups that it refers to, all of which it has. -/
def read? (text : List Char) : Option (Node × List Nat) := do
  let (node, reading) ← (alternation (8 * text.length + 16) 0).run { text }
  let exist := reading.referred.all fun group => 0 < group && group ≤ reading.groups
  if reading.text.isEmpty ∧ exist then return (node, reading.referred) else none

end Reading

end ScopeCascade.Pattern
