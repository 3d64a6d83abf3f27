import ScopeCascade.Pattern.CharSet
import ScopeCascade.Pattern.Escape

/-! Character classes. First the extent of a class is found and its escapes are resolved; then the
characters are read as ranges, nested classes and set operations. A bracket that ends a range has no
other meaning, so that the class may end before the bracket that balances it. -/
namespace ScopeCascade.Pattern

/-- A piece of a class: a character that may be syntax, or what an escape denotes. -/
inductive ClassToken
  | raw (c : Char)
  | literal (c : Char)
  | set (set : CharSet)

namespace ClassToken

/-- The tokens up to the bracket that closes `depth` open ones, each with the text behind it. -/
def collect (skip : List Char → Option (List Char)) :
    Nat → Nat → List Char → Option (List (ClassToken × List Char))
  | 0, _, _ => none
  | _, _, [] => none
  | fuel + 1, depth, c :: rest => do
    if c = '\\' then
      let (escape, rest) ← Escape.read true skip rest
      let token ← match escape with
        | .literal c | .code c => some (literal c)
        | .set members => some (.set members)
        | _ => none
      let tokens ← collect skip fuel depth rest
      return (token, rest) :: tokens
    else if c = ']' ∧ depth = 1 then return [(raw c, rest)]
    else
      let depth := if c = '[' then depth + 1 else if c = ']' then depth - 1 else depth
      let tokens ← collect skip fuel depth rest
      return (raw c, rest) :: tokens

/-- The tokens of the class whose opening bracket has been read. A closing bracket right behind it
is a member. -/
def ofClass (skip : List Char → Option (List Char)) (text : List Char) :
    Option (List (ClassToken × List Char)) :=
  let fuel := text.length + 1
  let (mark, text) := match text with
    | '^' :: rest => ([(raw '^', rest)], rest)
    | _ => ([], text)
  let (member, text) := match text with
    | ']' :: rest => ([(raw ']', rest)], rest)
    | _ => ([], text)
  (collect skip fuel 1 text).map fun tokens => mark ++ member ++ tokens

end ClassToken

namespace CharSet

open ClassToken (raw literal)

/-- Tokens with the text behind each. -/
abbrev ClassText := List (ClassToken × List Char)

/-- A class with a name, its opening bracket read. -/
private def readNamed (fold : Bool) (tokens : ClassText) : Option (CharSet × ClassText) := do
  let raws := tokens.map fun
    | (raw c, _) => c
    | _ => ' '
  let (negated, skipped, name) ← match raws with
    | ':' :: '^' :: rest => some (true, 2, rest)
    | ':' :: rest => some (false, 1, rest)
    | _ => none
  let word := name.takeWhile fun c => c ≠ ':'
  let set := (← named? (String.ofList word)).foldedIf fold
  match tokens.drop (skipped + word.length) with
  | (raw ':', _) :: (raw ']', _) :: rest => return (if negated then set.complement else set, rest)
  | _ => none

/-- One character or set of a range. -/
private def readItem : ClassText → Option ((Char ⊕ CharSet) × ClassText)
  | (raw c, _) :: rest | (literal c, _) :: rest => some (.inl c, rest)
  | (.set set, _) :: rest => some (.inr set, rest)
  | [] => none

private def ofItem : Char ⊕ CharSet → CharSet
  | .inl c => single c
  | .inr set => set

/-- A single member or a range. -/
private def readRange (tokens : ClassText) : Option (CharSet × ClassText) := do
  let (first, rest) ← readItem tokens
  match rest with
  | (raw '-', _) :: (raw ']', _) :: _ | (raw '-', _) :: (raw '-', _) :: _ =>
    return (ofItem first, rest)
  | (raw '-', _) :: rest =>
    let (last, rest) ← readItem rest
    match first, last with
    | .inl low, .inl high =>
      if low.toNat ≤ high.toNat then return (⟨[(low.toNat, high.toNat)]⟩, rest) else none
    | _, _ => none
  | rest => return (ofItem first, rest)

/-- An operator that combines what has been read with what follows. -/
abbrev Pending := Option (CharSet → CharSet → CharSet) × CharSet

/-- Operands are closed under case before they are combined. -/
private def settle (fold : Bool) (pending : Pending) (items : CharSet) : CharSet :=
  match pending.1 with
  | some combine => combine (pending.2.foldedIf fold) (items.foldedIf fold)
  | none => items

mutual

/-- A class whose opening bracket has been read, up to its closing bracket. -/
private def readSet (fold : Bool) : Nat → ClassText → Option (CharSet × ClassText)
  | 0, _ => none
  | fuel + 1, tokens => do
    let (negated, tokens) := match tokens with
      | (raw '^', _) :: rest => (true, rest)
      | _ => (false, tokens)
    let isDash : ClassToken × List Char → Bool
      | (raw '-', _) => true
      | _ => false
    let dashes := tokens.takeWhile isDash
    let tokens := tokens.dropWhile isDash
    let (items, tokens) := match dashes, tokens with
      | [], (raw ']', _) :: rest => (single ']', rest)
      | [], tokens => (empty, tokens)
      | _ :: _, tokens => (single '-', tokens)
    let (set, rest) ← readMembers fold fuel (none, empty) items tokens
    let set := set.foldedIf fold
    return (if negated then set.complement else set, rest)

private def readMembers (fold : Bool) :
    Nat → Pending → CharSet → ClassText → Option (CharSet × ClassText)
  | 0, _, _, _ => none
  | _, _, _, [] => none
  | fuel + 1, pending, items, tokens =>
    let operator (combine : CharSet → CharSet → CharSet) (rest : ClassText) :=
      readMembers fold fuel (some combine, settle fold pending items) empty rest
    match tokens with
    | (raw ']', _) :: rest => some (settle fold pending items, rest)
    | (raw '[', _) :: rest => do
      let (set, rest) ← match readNamed fold rest with
        | some found => some found
        | none => readSet fold fuel rest
      readMembers fold fuel pending (items.union set) rest
    | (raw '&', _) :: (raw '&', _) :: rest => operator intersection rest
    | (raw '-', _) :: (raw '-', _) :: rest => operator difference rest
    | (raw '~', _) :: (raw '~', _) :: rest => operator symmetricDifference rest
    | tokens => do
      let (set, rest) ← readRange tokens
      readMembers fold fuel pending (items.union set) rest

end

/-- The class whose opening bracket has been read, and the text behind it. -/
def read (fold : Bool) (skip : List Char → Option (List Char)) (text : List Char) :
    Option (CharSet × List Char) := do
  let tokens ← ClassToken.ofClass skip text
  let (set, unread) ← readSet fold (2 * tokens.length + 4) tokens
  let behind ← (tokens.take (tokens.length - unread.length)).getLast?
  return (set, behind.2)

end CharSet

end ScopeCascade.Pattern
