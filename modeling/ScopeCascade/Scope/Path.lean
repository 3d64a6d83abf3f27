import ScopeCascade.Scope.Basic

/-! Scope paths: the scopes around a place in a document, the outermost first. -/
namespace ScopeCascade

/-- A path has at least one scope. -/
structure ScopePath where
  scopes : List Scope
  scopes_ne_nil : scopes ≠ []
deriving DecidableEq

namespace ScopePath

def ofScopes : List Scope → Except ScopeError ScopePath
  | [] => .error .noScopes
  | scope :: rest => .ok ⟨scope :: rest, by simp⟩

/-- Reads the scopes of a text, which white space separates. -/
def ofChars (text : List Char) : Except ScopeError ScopePath :=
  (Text.words text).mapM Scope.ofChars >>= ofScopes

def parse (text : String) : Except ScopeError ScopePath := ofChars text.toList

def chars (path : ScopePath) : List Char := [' '].intercalate (path.scopes.map Scope.chars)

/-- The path's text, in which one space separates the scopes. -/
def text (path : ScopePath) : String := String.ofList path.chars

def depth (path : ScopePath) : Nat := path.scopes.length

def innermost (path : ScopePath) : Scope := path.scopes.getLast path.scopes_ne_nil

/-- The path with one more scope inside. -/
def child (path : ScopePath) (scope : Scope) : ScopePath := ⟨path.scopes ++ [scope], by simp⟩

end ScopePath

end ScopeCascade
