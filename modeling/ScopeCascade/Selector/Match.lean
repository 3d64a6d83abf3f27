import ScopeCascade.InsertionMap
import ScopeCascade.Scope.Path
import ScopeCascade.Selector.Expr

/-! How an expression matches a path. Inside a window, the scopes before an index, every expression
has a list of candidates, at most one for each scope that a match may start at: that start is all
that the terms before it in a sequence depend on. -/
namespace ScopeCascade.Selector

/-- An atom matched against one scope of a path. -/
structure AtomMatch where
  /-- The place of the scope in the path; the outermost is 0. -/
  index : Nat
  /-- How many segments the atom has. -/
  segments : Nat
deriving DecidableEq

/-- The deeper match is greater, and at one depth the longer atom. -/
instance : Ord AtomMatch :=
  ⟨compareLex (compareOn AtomMatch.index) (compareOn AtomMatch.segments)⟩

instance : Std.TransOrd AtomMatch := inferInstanceAs (Std.TransCmp (compareLex _ _))

instance : Std.LawfulEqOrd AtomMatch where
  eq_of_compare {a b} h := by
    obtain ⟨hi, hs⟩ := compareLex_eq_eq.mp h
    cases a; cases b
    simp only [AtomMatch.mk.injEq]
    exact ⟨Std.LawfulEqOrd.eq_of_compare hi, Std.LawfulEqOrd.eq_of_compare hs⟩

/-- A match inside a window: its outermost scope, and its atoms, deepest first. -/
structure Candidate where
  start : Nat
  atoms : List AtomMatch
deriving DecidableEq

namespace Candidate

/-- Adds a candidate unless one with its start is at least as great. -/
def insertBest (new : Candidate) : List Candidate → List Candidate
  | [] => [new]
  | old :: rest =>
    if old.start = new.start then
      (if compare new.atoms old.atoms = .gt then new else old) :: rest
    else old :: insertBest new rest

/-- The greatest candidate of each start. -/
def best (candidates : List Candidate) : List Candidate :=
  candidates.foldl (fun kept new => insertBest new kept) []

/-- The match of a chain whose last term matches as `last` and whose other terms match as
`earlier`. -/
def extend (last earlier : Candidate) : Candidate := ⟨earlier.start, last.atoms ++ earlier.atoms⟩

end Candidate

/-- The candidates of one term in each window. -/
abbrev TermMatcher := Nat → List Candidate

/-- Matches the terms of a sequence, each strictly inside the one before it, and remembers the
candidates of the first `n` terms inside a window under `(n, window)`. -/
structure SequenceMatcher where
  terms : List TermMatcher
  memo : InsertionMap (Nat × Nat) (List Candidate) := ∅

namespace SequenceMatcher

/-- The candidates of the first `n` terms inside a window, without a memory. -/
def search (terms : List TermMatcher) : Nat → Nat → List Candidate
  | 0, _ => []
  | n + 1, limit =>
    let last := (terms[n]?.map (· limit)).getD []
    if n = 0 then last
    else
      Candidate.best (last.flatMap fun candidate =>
        (search terms n candidate.start).map candidate.extend)

/-- The candidates of the first `n` terms inside a window, looked up before they are searched
for. -/
def searchMemo (terms : List TermMatcher) :
    Nat → Nat → StateM (InsertionMap (Nat × Nat) (List Candidate)) (List Candidate)
  | 0, _ => pure []
  | n + 1, limit => do
    match (← get).get? (n + 1, limit) with
    | some known => return known
    | none =>
      let last := (terms[n]?.map (· limit)).getD []
      let found ←
        if n = 0 then pure last
        else do
          let extended ← last.mapM fun candidate => do
            return (← searchMemo terms n candidate.start).map candidate.extend
          pure (Candidate.best extended.flatten)
      modify (·.insert (n + 1, limit) found)
      return found

/-- The candidates of the first `n` terms inside a window, and the matcher that remembers them. -/
def candidates (matcher : SequenceMatcher) (n limit : Nat) : List Candidate × SequenceMatcher :=
  let (found, memo) := (searchMemo matcher.terms n limit).run matcher.memo
  (found, { matcher with memo })

end SequenceMatcher

namespace Expr

/-- The matches of an atom inside a window, deepest first. -/
def atomCandidates (path : List Scope) (scope : Scope) : TermMatcher := fun limit =>
  ((List.range limit).reverse.filter fun index => path[index]?.any scope.isPrefixOf).map
    fun index => ⟨index, [⟨index, scope.length⟩]⟩

mutual

/-- The candidates of an expression inside a window of the path. -/
def candidates (path : List Scope) : Expr → TermMatcher
  | atom scope => atomCandidates path scope
  | sequence terms => fun limit =>
    (SequenceMatcher.candidates ⟨candidatesOfAll path terms, ∅⟩ terms.length limit).1
  | union alternatives => fun limit =>
    Candidate.best ((candidatesOfAll path alternatives).flatMap (· limit))
  | exclusion kept excluded => fun limit =>
    if (candidates path excluded limit).isEmpty then candidates path kept limit else []
  | group alternatives => fun limit =>
    Candidate.best ((candidatesOfAll path alternatives).flatMap (· limit))

def candidatesOfAll (path : List Scope) : List Expr → List TermMatcher
  | [] => []
  | expr :: rest => candidates path expr :: candidatesOfAll path rest

end

end Expr

/-- How a selector matches a path: the span from the outermost scope used to the one after the
innermost, and the matched atoms, deepest first. -/
structure MatchResult where
  start : Nat
  stop : Nat
  atoms : List AtomMatch
deriving DecidableEq

namespace MatchResult

def ofCandidate (candidate : Candidate) : MatchResult :=
  ⟨candidate.start, ((candidate.atoms.head?.map (·.index)).getD candidate.start) + 1,
    candidate.atoms⟩

/-- The number of scopes in the span. -/
def length (result : MatchResult) : Nat := result.stop - result.start

def isEmpty (result : MatchResult) : Bool := result.atoms.isEmpty

end MatchResult

/-- The candidate with the greatest atoms. -/
def Candidate.greatest? (candidates : List Candidate) : Option Candidate :=
  candidates.foldl (fun greatest candidate =>
    match greatest with
    | some held => if compare candidate.atoms held.atoms = .lt then some held else some candidate
    | none => some candidate) none

/-- The most specific way in which the expression matches the whole path. -/
def Expr.match? (expr : Expr) (path : ScopePath) : Option MatchResult :=
  (Candidate.greatest? (expr.candidates path.scopes path.depth)).map .ofCandidate

end ScopeCascade.Selector
