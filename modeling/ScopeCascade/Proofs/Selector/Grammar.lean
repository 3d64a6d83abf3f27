import ScopeCascade.Selector.Expr
import ScopeCascade.Selector.Token

/-! The grammar of selectors, as derivations from lists of tokens, and the form of the expressions
that it derives. -/
namespace ScopeCascade.Selector

namespace Grammar

/-- What stands between alternatives: a comma, or in a group also a bar. -/
inductive Separator : Bool → TokenKind → Prop
  | comma {grouped : Bool} : Separator grouped .comma
  | bar : Separator true .bar

mutual

inductive Term : List TokenKind → Expr → Prop
  | atom {run : List Char} {scope : Scope} :
      scope.segments.map Subtype.val = run.splitOn '.' → Term [.atom run] (.atom scope)
  | group {tokens : List TokenKind} {alternatives : List Expr} :
      Alternatives true tokens alternatives →
      Term (.opening :: tokens ++ [.closing]) (.group alternatives)

inductive Terms : List TokenKind → List Expr → Prop
  | first {tokens : List TokenKind} {term : Expr} : Term tokens term → Terms tokens [term]
  | next {tokens more : List TokenKind} {terms : List Expr} {term : Expr} :
      Terms tokens terms → Term more term → Terms (tokens ++ more) (terms ++ [term])

inductive Sequence : List TokenKind → Expr → Prop
  | single {tokens : List TokenKind} {term : Expr} : Term tokens term → Sequence tokens term
  | several {tokens : List TokenKind} {terms : List Expr} :
      Terms tokens terms → 2 ≤ terms.length → Sequence tokens (.sequence terms)

inductive Exclusion : List TokenKind → Expr → Prop
  | sequence {tokens : List TokenKind} {expr : Expr} :
      Sequence tokens expr → Exclusion tokens expr
  | minus {tokens more : List TokenKind} {kept excluded : Expr} :
      Exclusion tokens kept → Sequence more excluded →
      Exclusion (tokens ++ .minus :: more) (.exclusion kept excluded)

inductive Alternatives : Bool → List TokenKind → List Expr → Prop
  | first {grouped : Bool} {tokens : List TokenKind} {alternative : Expr} :
      Exclusion tokens alternative → Alternatives grouped tokens [alternative]
  | next {grouped : Bool} {tokens more : List TokenKind} {separator : TokenKind}
      {alternatives : List Expr} {alternative : Expr} :
      Alternatives grouped tokens alternatives → Separator grouped separator →
      Exclusion more alternative →
      Alternatives grouped (tokens ++ separator :: more) (alternatives ++ [alternative])

end

/-- All tokens of a selector. -/
inductive Whole : List TokenKind → Expr → Prop
  | exclusion {tokens : List TokenKind} {expr : Expr} : Exclusion tokens expr → Whole tokens expr
  | union {tokens : List TokenKind} {alternatives : List Expr} :
      Alternatives false tokens alternatives → 2 ≤ alternatives.length →
      Whole tokens (.union alternatives)

end Grammar

namespace Expr

inductive IsTerm : Expr → Prop
  | atom (scope : Scope) : IsTerm (.atom scope)
  | group (alternatives : List Expr) : IsTerm (.group alternatives)

/-- The form of every part of a selector: no union, and nothing that a simpler expression could
stand for. -/
inductive IsPart : Expr → Prop
  | atom {scope : Scope} :
      scope.segments ≠ [] → (∀ segment ∈ scope.segments, segment.val ≠ []) → IsPart (.atom scope)
  | sequence {terms : List Expr} :
      2 ≤ terms.length → (∀ term ∈ terms, term.IsTerm) → (∀ term ∈ terms, IsPart term) →
      IsPart (.sequence terms)
  | exclusion {kept excluded : Expr} :
      IsPart kept → IsPart excluded → IsPart (.exclusion kept excluded)
  | group {alternatives : List Expr} :
      alternatives ≠ [] → (∀ alternative ∈ alternatives, IsPart alternative) →
      IsPart (.group alternatives)

/-- The form of a whole selector: a union can only be its root. -/
inductive IsWhole : Expr → Prop
  | part {expr : Expr} : IsPart expr → IsWhole expr
  | union {alternatives : List Expr} :
      2 ≤ alternatives.length → (∀ alternative ∈ alternatives, IsPart alternative) →
      IsWhole (.union alternatives)

/-- The alternatives at the top level, of which there may be one. -/
def alternatives : Expr → List Expr
  | union alternatives => alternatives
  | expr => [expr]

theorem IsPart.alternatives_eq {expr : Expr} (part : expr.IsPart) : expr.alternatives = [expr] := by
  cases part <;> rfl

theorem two_le_length_append {earlier : List Expr} (nonempty : earlier ≠ []) (last : Expr) :
    2 ≤ (earlier ++ [last]).length := by
  have filled := List.length_pos_iff.mpr nonempty
  rw [List.length_append, List.length_singleton]
  omega

theorem ofTerms_of_several {terms : List Expr} (several : 2 ≤ terms.length) :
    ofTerms terms = .sequence terms := by
  match terms, several with
  | _ :: _ :: _, _ => rfl

theorem ofAlternatives_of_several {alternatives : List Expr} (several : 2 ≤ alternatives.length) :
    ofAlternatives alternatives = .union alternatives := by
  match alternatives, several with
  | _ :: _ :: _, _ => rfl

theorem isPart_atom (scope : Scope) : IsPart (.atom scope) := by
  refine .atom scope.segments_ne_nil ?_
  intro segment _ empty
  have valid := segment.property
  rw [empty] at valid
  contradiction

end Expr

namespace Grammar

theorem Term.isTerm {tokens : List TokenKind} {term : Expr} (derived : Term tokens term) :
    term.IsTerm := by
  cases derived with
  | atom => exact .atom _
  | group => exact .group _

theorem Terms.all_isTerm {tokens : List TokenKind} {terms : List Expr}
    (derived : Terms tokens terms) : ∀ term ∈ terms, term.IsTerm := by
  match derived with
  | .first term => exact List.forall_mem_singleton.mpr term.isTerm
  | .next terms term =>
    exact List.forall_mem_append.mpr ⟨terms.all_isTerm, List.forall_mem_singleton.mpr term.isTerm⟩

theorem Terms.ne_nil {tokens : List TokenKind} {terms : List Expr} (derived : Terms tokens terms) :
    terms ≠ [] := by
  cases derived <;> simp

theorem Terms.sequence {tokens : List TokenKind} {terms : List Expr}
    (derived : Terms tokens terms) : Sequence tokens (Expr.ofTerms terms) := by
  cases derived with
  | first term => exact .single term
  | @next _ _ _ last earlier term =>
    have several := Expr.two_le_length_append earlier.ne_nil last
    rw [Expr.ofTerms_of_several several]
    exact .several (.next earlier term) several

theorem Alternatives.ne_nil {grouped : Bool} {tokens : List TokenKind} {alternatives : List Expr}
    (derived : Alternatives grouped tokens alternatives) : alternatives ≠ [] := by
  cases derived <;> simp

theorem Alternatives.append {grouped : Bool} {tokens more : List TokenKind} {separator : TokenKind}
    {alternatives others : List Expr} (first : Alternatives grouped tokens alternatives)
    (separates : Separator grouped separator) (last : Alternatives grouped more others) :
    Alternatives grouped (tokens ++ separator :: more) (alternatives ++ others) := by
  match last with
  | .first alternative => exact .next first separates alternative
  | .next earlier between alternative =>
    rw [← List.append_assoc, ← List.cons_append, ← List.append_assoc]
    exact .next (first.append separates earlier) between alternative

theorem Alternatives.whole {tokens : List TokenKind} {alternatives : List Expr}
    (derived : Alternatives false tokens alternatives) :
    Whole tokens (Expr.ofAlternatives alternatives) := by
  cases derived with
  | first alternative => exact .exclusion alternative
  | @next _ _ _ _ _ last earlier separator alternative =>
    have several := Expr.two_le_length_append earlier.ne_nil last
    rw [Expr.ofAlternatives_of_several several]
    exact .union (.next earlier separator alternative) several

mutual

theorem Term.isPart {tokens : List TokenKind} {term : Expr} (derived : Term tokens term) :
    term.IsPart := by
  match derived with
  | .atom _ => exact Expr.isPart_atom _
  | .group alternatives => exact .group alternatives.ne_nil alternatives.all_isPart

theorem Terms.all_isPart {tokens : List TokenKind} {terms : List Expr}
    (derived : Terms tokens terms) : ∀ term ∈ terms, term.IsPart := by
  match derived with
  | .first term => exact List.forall_mem_singleton.mpr term.isPart
  | .next terms term =>
    exact List.forall_mem_append.mpr ⟨terms.all_isPart, List.forall_mem_singleton.mpr term.isPart⟩

theorem Sequence.isPart {tokens : List TokenKind} {expr : Expr} (derived : Sequence tokens expr) :
    expr.IsPart := by
  match derived with
  | .single term => exact term.isPart
  | .several terms several => exact .sequence several terms.all_isTerm terms.all_isPart

theorem Exclusion.isPart {tokens : List TokenKind} {expr : Expr}
    (derived : Exclusion tokens expr) : expr.IsPart := by
  match derived with
  | .sequence sequence => exact sequence.isPart
  | .minus kept excluded => exact .exclusion kept.isPart excluded.isPart

theorem Alternatives.all_isPart {grouped : Bool} {tokens : List TokenKind}
    {alternatives : List Expr} (derived : Alternatives grouped tokens alternatives) :
    ∀ alternative ∈ alternatives, alternative.IsPart := by
  match derived with
  | .first alternative => exact List.forall_mem_singleton.mpr alternative.isPart
  | .next alternatives _ alternative =>
    exact List.forall_mem_append.mpr
      ⟨alternatives.all_isPart, List.forall_mem_singleton.mpr alternative.isPart⟩

end

theorem Whole.isWhole {tokens : List TokenKind} {expr : Expr} (derived : Whole tokens expr) :
    expr.IsWhole := by
  cases derived with
  | exclusion exclusion => exact .part exclusion.isPart
  | union alternatives several => exact .union several alternatives.all_isPart

theorem Whole.alternatives {tokens : List TokenKind} {expr : Expr} (derived : Whole tokens expr) :
    Alternatives false tokens expr.alternatives ∧
      Expr.ofAlternatives expr.alternatives = expr := by
  cases derived with
  | exclusion exclusion =>
    rw [exclusion.isPart.alternatives_eq]
    exact ⟨.first exclusion, rfl⟩
  | union alternatives several => exact ⟨alternatives, Expr.ofAlternatives_of_several several⟩

end Grammar

end ScopeCascade.Selector
