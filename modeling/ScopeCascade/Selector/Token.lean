import ScopeCascade.Scope.Basic

/-! Tokens of selector text. A `-` is an operator where a token starts and a segment character
inside an atom. -/
namespace ScopeCascade.Selector

inductive TokenKind
  | opening | closing | comma | bar | minus
  /-- A run of segment characters and dots. -/
  | atom (run : List Char)
  /-- A character that belongs to no selector. -/
  | stray (char : Char)
deriving DecidableEq

/-- A token and the position of its first character, in bytes. -/
structure Token where
  kind : TokenKind
  position : Nat
deriving DecidableEq

namespace Token

def isRunChar (c : Char) : Bool := isSegmentChar c || c = '.'

/-- The atom being read: where it starts, and its characters so far, the last one first. -/
abbrev Run := Nat × List Char

def ofRun (run : Run) : Token := ⟨.atom run.2.reverse, run.1⟩

/-- What a character means where a token starts: a token of its own, or the start of an atom. -/
def start (position : Nat) (c : Char) : Option Token × Option Run :=
  if Text.isBlank c then (none, none)
  else if c = '(' then (some ⟨.opening, position⟩, none)
  else if c = ')' then (some ⟨.closing, position⟩, none)
  else if c = ',' then (some ⟨.comma, position⟩, none)
  else if c = '|' then (some ⟨.bar, position⟩, none)
  else if c = '-' then (some ⟨.minus, position⟩, none)
  else if isRunChar c then (none, some (position, [c]))
  else (some ⟨.stray c, position⟩, none)

/-- The tokens from a position on, an atom being read included. -/
def scan (position : Nat) : Option Run → List Char → List Token
  | run, [] => (run.map ofRun).toList
  | some run, c :: rest =>
    if isRunChar c then scan (position + c.utf8Size) (some (run.1, c :: run.2)) rest
    else
      let begun := start position c
      ofRun run :: (begun.1.toList ++ scan (position + c.utf8Size) begun.2 rest)
  | none, c :: rest =>
    let begun := start position c
    begun.1.toList ++ scan (position + c.utf8Size) begun.2 rest

def ofChars (text : List Char) : List Token := scan 0 none text

end Token

end ScopeCascade.Selector
