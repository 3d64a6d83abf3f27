import ScopeCascade.Text.Blank

/-! Font styles. -/
namespace ScopeCascade

structure FontStyle where
  bold : Bool := false
  italic : Bool := false
  underline : Bool := false
deriving DecidableEq, Inhabited

namespace FontStyle

/-- Adds what a word says, in letters of either case; an unknown word says nothing. -/
def addWord (style : FontStyle) (word : List Char) : FontStyle :=
  match String.ofList (word.map Char.toLower) with
  | "bold" => { style with bold := true }
  | "italic" => { style with italic := true }
  | "underline" | "underlined" => { style with underline := true }
  | _ => style

/-- The style that a list of words describes. -/
def parse (text : String) : FontStyle := (Text.words text.toList).foldl addWord {}

/-- The names of the modifiers that are set. -/
def names (style : FontStyle) : List String :=
  (if style.bold then ["BOLD"] else []) ++ (if style.italic then ["ITALIC"] else []) ++
    (if style.underline then ["UNDERLINE"] else [])

end FontStyle

end ScopeCascade
