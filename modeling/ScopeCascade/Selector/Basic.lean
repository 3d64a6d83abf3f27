import ScopeCascade.Selector.Match
import ScopeCascade.Selector.Parser

/-! Scope selectors: an expression together with the text it was read from. -/
namespace ScopeCascade

/-- A selector; two are the same if their expressions are. -/
structure Selector where
  /-- The text as written, without white space around it. -/
  source : List Char
  expr : Selector.Expr

namespace Selector

instance : BEq Selector := ⟨fun a b => a.expr = b.expr⟩

def ofChars (text : List Char) : Except ParseError Selector :=
  (Expr.ofChars text).map fun expr => ⟨Text.trim text, expr⟩

def parse (text : String) : Except ParseError Selector := ofChars text.toList

def text (selector : Selector) : String := String.ofList selector.source

/-- The most specific way in which the selector matches a path. -/
def match? (selector : Selector) (path : ScopePath) : Option MatchResult :=
  selector.expr.match? path

def isMatch (selector : Selector) (path : ScopePath) : Bool := (selector.match? path).isSome

end Selector

end ScopeCascade
