import ScopeCascade.Scope.Basic

/-! Selector expressions. An atom is a scope and stands for every scope that begins with it. -/
namespace ScopeCascade.Selector

inductive Expr
  /-- The scope, or one that begins with it. -/
  | atom (scope : Scope)
  /-- Every term matches strictly inside the one before it. -/
  | sequence (terms : List Expr)
  /-- Alternatives at the top level. -/
  | union (alternatives : List Expr)
  /-- The first matches and the second does not. -/
  | exclusion (kept excluded : Expr)
  /-- Alternatives between parentheses, a term of a sequence. -/
  | group (alternatives : List Expr)

instance : Inhabited Expr := ⟨.sequence []⟩

namespace Expr

mutual

/-- The atoms from left to right, on both sides of exclusions. -/
def atoms : Expr → List Scope
  | atom scope => [scope]
  | sequence terms => atomsOfAll terms
  | union alternatives => atomsOfAll alternatives
  | exclusion kept excluded => atoms kept ++ atoms excluded
  | group alternatives => atomsOfAll alternatives

def atomsOfAll : List Expr → List Scope
  | [] => []
  | expr :: rest => atoms expr ++ atomsOfAll rest

end

mutual

/-- Visits the atoms from left to right; every visit may change a state. -/
def visit {σ : Type} (action : σ → Scope → σ) : σ → Expr → σ
  | state, atom scope => action state scope
  | state, sequence terms => visitAll action state terms
  | state, union alternatives => visitAll action state alternatives
  | state, exclusion kept excluded => visit action (visit action state kept) excluded
  | state, group alternatives => visitAll action state alternatives

def visitAll {σ : Type} (action : σ → Scope → σ) : σ → List Expr → σ
  | state, [] => state
  | state, expr :: rest => visitAll action (visit action state expr) rest

end

mutual

/-- Whether two expressions are the same. -/
def same : Expr → Expr → Bool
  | atom a, atom b => a = b
  | sequence a, sequence b => sameAll a b
  | union a, union b => sameAll a b
  | exclusion a b, exclusion c d => same a c && same b d
  | group a, group b => sameAll a b
  | _, _ => false

def sameAll : List Expr → List Expr → Bool
  | [], [] => true
  | a :: as, b :: bs => same a b && sameAll as bs
  | _, _ => false

end

mutual

theorem same_iff : (a b : Expr) → (same a b = true ↔ a = b)
  | atom a, b => by cases b <;> simp [same]
  | sequence a, b => by
    cases b with
    | sequence b => simp [same, sameAll_iff a b]
    | _ => simp [same]
  | union a, b => by
    cases b with
    | union b => simp [same, sameAll_iff a b]
    | _ => simp [same]
  | exclusion a b, c => by
    cases c with
    | exclusion c d => simp [same, same_iff a c, same_iff b d]
    | _ => simp [same]
  | group a, b => by
    cases b with
    | group b => simp [same, sameAll_iff a b]
    | _ => simp [same]

theorem sameAll_iff : (as bs : List Expr) → (sameAll as bs = true ↔ as = bs)
  | [], bs => by cases bs <;> simp [sameAll]
  | a :: as, bs => by
    cases bs with
    | nil => simp [sameAll]
    | cons b bs => simp [sameAll, same_iff a b, sameAll_iff as bs]

end

instance : DecidableEq Expr := fun a b => decidable_of_iff _ (same_iff a b)

/-- Several terms in a row; a single one stands for itself. -/
def ofTerms : List Expr → Expr
  | [term] => term
  | terms => sequence terms

/-- Several alternatives; a single one stands for itself. -/
def ofAlternatives : List Expr → Expr
  | [alternative] => alternative
  | alternatives => union alternatives

end Expr

end ScopeCascade.Selector
