import ScopeCascade.Selector.Basic

/-! How precisely a match targets a path. Matches are compared atom by atom from the deepest one
on: first by depth, then by the number of segments; when one list of atoms continues the other, it
is the greater. -/
namespace ScopeCascade

/-- The weight of one matched atom. -/
structure Weight where
  /-- The depth of the matched scope, from 1 on. -/
  depth : Nat
  segments : Nat
deriving DecidableEq

instance : Ord Weight := ⟨compareLex (compareOn Weight.depth) (compareOn Weight.segments)⟩

instance : Std.TransOrd Weight := inferInstanceAs (Std.TransCmp (compareLex _ _))

instance : Std.LawfulEqOrd Weight where
  eq_of_compare {a b} h := by
    obtain ⟨hd, hs⟩ := compareLex_eq_eq.mp h
    cases a; cases b
    simp only [Weight.mk.injEq]
    exact ⟨Std.LawfulEqOrd.eq_of_compare hd, Std.LawfulEqOrd.eq_of_compare hs⟩

/-- The weights of a match, deepest first. -/
structure Specificity where
  weights : List Weight
deriving DecidableEq

instance : Ord Specificity := ⟨compareOn Specificity.weights⟩

instance : Std.TransOrd Specificity := inferInstanceAs (Std.TransCmp (compareOn _))

instance : Std.LawfulEqOrd Specificity where
  eq_of_compare {a b} h := by
    cases a; cases b
    simp only [Specificity.mk.injEq]
    exact Std.LawfulEqOrd.eq_of_compare (α := List Weight) h

namespace Specificity

/-- The lowest specificity, that of a record for every path. -/
def universal : Specificity := ⟨[]⟩

def isUniversal (specificity : Specificity) : Bool := specificity.weights.isEmpty

/-- The number of segments of all matched atoms. -/
def segments (specificity : Specificity) : Nat :=
  specificity.weights.foldr (fun weight total => weight.segments + total) 0

def ofMatch (result : Selector.MatchResult) : Specificity :=
  ⟨result.atoms.map fun atom => ⟨atom.index + 1, atom.segments⟩⟩

end Specificity

/-- The specificity of a selector at a path, if it matches. -/
def Selector.rank? (selector : Selector) (path : ScopePath) : Option Specificity :=
  (selector.match? path).map .ofMatch

end ScopeCascade
