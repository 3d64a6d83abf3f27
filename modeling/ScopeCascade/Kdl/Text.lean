import ScopeCascade.Kdl.Chars
import ScopeCascade.Text.Digits

/-! Strings of KDL text: in quotation marks with escapes, or raw between number signs; on one line,
or on several lines whose common indentation does not count. -/
namespace ScopeCascade.Kdl

namespace Quoted

/-- Where reading stands: at a character, in white space behind a backslash, behind a backslash, or
in the code of a character. -/
inductive Mode
  | char | blank | escape | brace
  | code (value digits : Nat)

def escape? : Char → Option Char
  | 'n' => some '\n'
  | 'r' => some '\r'
  | 't' => some '\t'
  | '\\' => some '\\'
  | '"' => some '"'
  | 'b' => some '\x08'
  | 'f' => some '\x0c'
  | 's' => some ' '
  | _ => none

private def prepend (c : Char) (result : Option (List Char × List Char)) :
    Option (List Char × List Char) :=
  result.map fun (text, rest) => (c :: text, rest)

/-- The characters up to the closing quotation mark, or, without one, to the end. Ends of lines
stand only in strings of several lines. -/
def read (closed lines : Bool) : Mode → List Char → Option (List Char × List Char)
  | .char, c :: rest =>
    if c = '\\' then read closed lines .escape rest
    else if closed ∧ c = '"' then some ([], rest)
    else if isDisallowed c ∨ (isNewline c ∧ !lines) then none
    else prepend c (read closed lines .char rest)
  | .blank, c :: rest =>
    if isSpace c ∨ isNewline c then read closed lines .blank rest
    else if c = '\\' then read closed lines .escape rest
    else if closed ∧ c = '"' then some ([], rest)
    else if isDisallowed c then none
    else prepend c (read closed lines .char rest)
  | .escape, c :: rest =>
    if isSpace c ∨ isNewline c then read closed lines .blank rest
    else if c = 'u' then read closed lines .brace rest
    else
      match escape? c with
      | some c => prepend c (read closed lines .char rest)
      | none => none
  | .brace, c :: rest => if c = '{' then read closed lines (.code 0 0) rest else none
  | .code value digits, c :: rest =>
    if c = '}' then
      if h : value.isValidChar ∧ digits ≠ 0 then
        prepend (Char.ofNatAux value h.1) (read closed lines .char rest)
      else none
    else
      match Text.hexDigit? c with
      | some digit =>
        if digits < 6 then read closed lines (.code (16 * value + digit) (digits + 1)) rest
        else none
      | none => none
  | .char, [] | .blank, [] => if closed then none else some ([], [])
  | _, [] => none

/-- The text without backslashes before white space, and without that white space. -/
def joinLines : (joining : Bool) → List Char → List Char
  | _, [] => []
  | true, c :: rest =>
    if isSpace c ∨ isNewline c then joinLines true rest
    else
      match c, rest with
      | '\\', next :: rest =>
        if isSpace next ∨ isNewline next then joinLines true rest
        else '\\' :: next :: joinLines false rest
      | c, rest => c :: joinLines false rest
  | false, '\\' :: next :: rest =>
    if isSpace next ∨ isNewline next then joinLines true rest
    else '\\' :: next :: joinLines false rest
  | false, c :: rest => c :: joinLines false rest

/-- The text up to three quotation marks none of which stands behind a backslash. -/
def untilClosed : List Char → Option (List Char × List Char)
  | '"' :: '"' :: '"' :: rest => some ([], rest)
  | '\\' :: c :: rest =>
    (untilClosed rest).map fun (text, rest) => ('\\' :: c :: text, rest)
  | c :: rest => prepend c (untilClosed rest)
  | [] => none

end Quoted

namespace Lines

/-- The lines of a text. -/
def split : List Char → List (List Char)
  | [] => [[]]
  | '\r' :: '\n' :: rest => [] :: split rest
  | c :: rest =>
    if isNewline c then [] :: split rest
    else
      match split rest with
      | line :: lines => (c :: line) :: lines
      | [] => [[c]]

def isBlank (line : List Char) : Bool := line.all isSpace

/-- The lines between the opening and the closing quotation marks, without the indentation of the
latter, which every line that is not blank has. -/
def dedent (text : List Char) : Option (List Char) := do
  match split text with
  | [] :: lines =>
    let indentation ← lines.getLast?
    if !isBlank indentation then none
    let lines ← lines.dropLast.mapM fun line =>
      if isBlank line then some []
      else if indentation.isPrefixOf line then some (line.drop indentation.length)
      else none
    return ['\n'].intercalate lines
  | _ => none

end Lines

/-- The text behind an opening quotation mark if the string has several lines: two more marks and
the end of a line come first. -/
def severalLines? : List Char → Option (List Char)
  | '"' :: '"' :: rest => if rest.head?.any isNewline then some rest else none
  | _ => none

/-- A string whose opening quotation mark has been read. -/
def readQuoted (text : List Char) : Option (List Char × List Char) :=
  match severalLines? text with
  | some rest => do
    let (body, rest) ← Quoted.untilClosed rest
    let text ← Lines.dedent (Quoted.joinLines false body)
    let (value, _) ← Quoted.read false true .char text
    return (value, rest)
  | none => Quoted.read true false .char text

/-- The characters up to so many quotation marks followed by so many number signs. -/
def untilMark (mark : List Char) : List Char → Option (List Char × List Char)
  | [] => none
  | c :: rest =>
    if mark.isPrefixOf (c :: rest) then some ([], (c :: rest).drop mark.length)
    else (untilMark mark rest).map fun (text, rest) => (c :: text, rest)

/-- A raw string, from its first number sign on. It is not a single quotation mark, for then its
marks could be those of several lines. -/
def readRaw (text : List Char) : Option (List Char × List Char) := do
  let signs := text.takeWhile (· = '#')
  match text.drop signs.length with
  | '"' :: rest =>
    let (value, rest) ← match severalLines? rest with
      | some rest => do
        let (body, rest) ← untilMark (['"', '"', '"'] ++ signs) rest
        if body.any isDisallowed then none
        pure (← Lines.dedent body, rest)
      | none => do
        let (body, rest) ← untilMark ('"' :: signs) rest
        if body.any fun c => isDisallowed c || isNewline c then none
        pure (body, rest)
    if value = ['"'] then none else return (value, rest)
  | _ => none

end ScopeCascade.Kdl
