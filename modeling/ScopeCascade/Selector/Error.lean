import ScopeCascade.Text.Quoted

/-! Why a text is no selector. -/
namespace ScopeCascade.Selector

inductive ErrorKind
  | emptySelector
  | emptyAtom
  | danglingOperator (operator : Char)
  | unclosedGroup
  | unmatchedParen
  | emptyGroup
  | alternationOutsideGroup
  | unexpectedChar (char : Char)
deriving DecidableEq

def ErrorKind.message : ErrorKind → String
  | emptySelector => "empty selector"
  | emptyAtom => "empty scope segment"
  | danglingOperator operator => "dangling operator '" ++ operator.toString ++ "'"
  | unclosedGroup => "unclosed '('"
  | unmatchedParen => "unmatched ')'"
  | emptyGroup => "empty group '()'"
  | alternationOutsideGroup => "'|' outside of a group"
  | unexpectedChar char => "unexpected character '" ++ char.toString ++ "'"

/-- What is wrong, and where: a position in bytes and a piece of the text there. -/
structure ParseError where
  kind : ErrorKind
  position : Nat
  fragment : List Char
deriving DecidableEq

namespace ParseError

def fragmentLength : Nat := 24

/-- The text before and after a position. -/
def splitAt : Nat → List Char → List Char × List Char
  | 0, text => ([], text)
  | _ + 1, [] => ([], [])
  | position + 1, c :: rest =>
    let halves := splitAt (position + 1 - c.utf8Size) rest
    (c :: halves.1, halves.2)

/-- The word that starts at a position, or, at the end, the last word of the text; long ones are
cut. -/
def excerpt (text : List Char) (position : Nat) : List Char :=
  let halves := splitAt position text
  let word := halves.2.takeWhile (!Text.isBlank ·)
  let word := if word.isEmpty then (Text.words halves.1).getLastD [] else word
  word.take fragmentLength

def ofKind (text : List Char) (kind : ErrorKind) (position : Nat) : ParseError :=
  ⟨kind, position, excerpt text position⟩

def message (error : ParseError) : String :=
  "selector parse error at position " ++ toString error.position ++ " near " ++
    Text.quoted (String.ofList error.fragment) ++ ": " ++ error.kind.message

end ParseError

end ScopeCascade.Selector
