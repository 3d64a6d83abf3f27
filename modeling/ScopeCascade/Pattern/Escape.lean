import ScopeCascade.Pattern.Node
import ScopeCascade.Text.Alphanumeric
import ScopeCascade.Text.Digits

/-! Escapes in patterns. -/
namespace ScopeCascade.Pattern

/-- What a backslash and the characters behind it denote. -/
inductive Escape
  /-- The character itself, in this case only. -/
  | literal (c : Char)
  /-- A character by its code. -/
  | code (c : Char)
  | set (set : CharSet)
  | assertion (condition : Assertion)
  | numbered (group : Nat)
  | named (name : List Char)
  /-- The group so many groups before the next one, or behind the last one. -/
  | relative (back : Bool) (distance : Nat)
  /-- The place where the search began. -/
  | searchStart
  /-- The match begins here; whether there is one does not depend on it. -/
  | matchStart

namespace Escape

/-- A character by its code, in so many digits or between braces. -/
private def readCode (digits : Nat) (text : List Char) : Option (Escape × List Char) := do
  let exact := text.take digits
  let (digits, rest) ←
    if exact.length = digits ∧ exact.all Text.isHexDigit then some (exact, text.drop digits)
    else
      match text with
      | '{' :: rest =>
        let digits := rest.takeWhile Text.isHexDigit
        match rest.drop digits.length with
        | '}' :: rest => if digits.isEmpty ∨ 8 < digits.length then none else some (digits, rest)
        | _ => none
      | _ => none
  let value ← Text.readHex? digits
  if h : value.isValidChar then return (code (Char.ofNatAux value h), rest) else none

def isNameChar (c : Char) : Bool := c = '_' || Text.isAlphanumeric c

/-- A name between two marks. -/
def readName (close : Char) (text : List Char) : Option (List Char × List Char) :=
  let name := text.takeWhile isNameChar
  match text.drop name.length with
  | c :: rest => if c = close ∧ !name.isEmpty then some (name, rest) else none
  | [] => none

/-- A name, or a signed distance, up to a mark. -/
private def readGroup (close : Char) (text : List Char) : Option (Escape × List Char) :=
  let distance (back : Bool) (rest : List Char) : Option (Escape × List Char) :=
    let digits := rest.takeWhile Char.isDigit
    match rest.drop digits.length with
    | c :: rest =>
      if c = close ∧ !digits.isEmpty then some (relative back (Text.readDecimal digits), rest)
      else none
    | [] => none
  match text with
  | '-' :: rest => distance true rest
  | '+' :: rest => distance false rest
  | text => (readName close text).map fun (name, rest) => (named name, rest)

private def letter? : Char → Option Char
  | 'a' => some '\x07'
  | 'b' => some '\x08'
  | 'e' => some '\x1b'
  | 'f' => some '\x0c'
  | 'n' => some '\n'
  | 'r' => some '\r'
  | 't' => some '\t'
  | 'v' => some '\x0b'
  | _ => none

private def set? : Char → Option CharSet
  | 'd' => some .digit
  | 'D' => some CharSet.digit.complement
  | 's' => some .space
  | 'S' => some CharSet.space.complement
  | 'w' => some .word
  | 'W' => some CharSet.word.complement
  | 'h' => some .hexDigit
  | 'H' => some CharSet.hexDigit.complement
  | _ => none

/-- What is not a character outside of classes. -/
private def outside? : Char → Option Escape
  | 'A' => some (assertion .textStart)
  | 'z' => some (assertion .textEnd)
  | 'Z' => some (assertion .lastLines)
  | 'b' => some (assertion .wordBoundary)
  | 'B' => some (assertion .noWordBoundary)
  | '<' => some (assertion .wordStart)
  | '>' => some (assertion .wordEnd)
  | 'G' => some searchStart
  | 'K' => some matchStart
  | _ => none

/-- The word boundaries with a name, behind the opening brace. -/
private def readBoundary (text : List Char) : Option (Escape × List Char) := do
  let name := text.takeWhile (· ≠ '}')
  let condition ← match String.ofList name with
    | "start" => some Assertion.wordStart
    | "end" => some .wordEnd
    | "start-half" => some .wordStartHalf
    | "end-half" => some .wordEndHalf
    | _ => none
  match text.drop name.length with
  | '}' :: rest => return (assertion condition, rest)
  | _ => none

/-- Reads what stands behind a backslash, in a class or outside. Blanks that may stand before the
digits of a code are skipped with `skip`. -/
def read (inClass : Bool) (skip : List Char → Option (List Char)) :
    List Char → Option (Escape × List Char)
  | [] => none
  | c :: rest =>
    if c.isDigit then
      let digits := (c :: rest).takeWhile Char.isDigit
      some (numbered (Text.readDecimal digits), (c :: rest).drop digits.length)
    else if c = 'x' then (skip rest).bind (readCode 2)
    else if c = 'u' then (skip rest).bind (readCode 4)
    else if c = 'U' then (skip rest).bind (readCode 8)
    else if !inClass ∧ c = 'k' then
      match rest with
      | '<' :: rest => readGroup '>' rest
      | '\'' :: rest => readGroup '\'' rest
      | _ => none
    else
      match set? c, if inClass then none else outside? c, letter? c with
      | some characters, _, _ => some (set characters, rest)
      | _, some meaning, _ =>
        match c, rest with
        | 'b', '{' :: name => readBoundary name
        | 'B', '{' :: _ => none
        | _, _ => some (meaning, rest)
      | _, _, some c => some (literal c, rest)
      | none, none, none =>
        if c.isAlpha ∧ !"kAzBKG".toList.contains c then none else some (literal c, rest)

end Escape

end ScopeCascade.Pattern
