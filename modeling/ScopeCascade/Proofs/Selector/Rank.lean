import ScopeCascade.Proofs.Selector.BestMatch

/-! The specificity of a selector at a path, by its matches there: it is the greatest that a match
has, so any two selectors with the same matches have the same one. -/
namespace ScopeCascade

def Specificity.ofAtoms (atoms : List Selector.AtomMatch) : Specificity :=
  .ofMatch ⟨0, 0, atoms⟩

theorem Specificity.compare_ofAtoms (atoms others : List Selector.AtomMatch) :
    compare (ofAtoms atoms) (ofAtoms others) = compare atoms others :=
  Selector.compare_ofMatch ⟨0, 0, atoms⟩ ⟨0, 0, others⟩

namespace Selector

theorem Expr.match?_cases (expr : Expr) (path : ScopePath) :
    (expr.match? path = none ∧ ∀ start atoms, ¬ expr.Matches path.scopes path.depth start atoms) ∨
    ∃ result, expr.match? path = some result ∧
      expr.Matches path.scopes path.depth result.start result.atoms ∧
      ∀ start atoms, expr.Matches path.scopes path.depth start atoms →
        (compare atoms result.atoms).isLE := by
  have realizes := Expr.candidates_realize path.scopes expr
  unfold Expr.match?
  cases listed : expr.candidates path.scopes path.depth with
  | nil =>
    refine .inl ⟨rfl, fun start atoms matched => ?_⟩
    obtain ⟨candidate, member, _⟩ := realizes.best path.depth start atoms matched
    simp [listed] at member
  | cons first rest =>
    obtain ⟨greatest, member, found, above⟩ := Candidate.greatest?_cons first rest
    rw [← listed] at member above
    refine .inr ⟨.ofCandidate greatest, by rw [found]; rfl,
      realizes.sound path.depth greatest member, fun start atoms matched => ?_⟩
    obtain ⟨candidate, present, _, below⟩ := realizes.best path.depth start atoms matched
    exact Std.TransCmp.isLE_trans below (above candidate present)

theorem Expr.stop_of_match? {expr : Expr} {path : ScopePath} {result : MatchResult}
    (reported : expr.match? path = some result)
    (matched : expr.Matches path.scopes path.depth result.start result.atoms) :
    result.atoms.head?.map (·.index + 1) = some result.stop := by
  obtain ⟨innermost, first, _⟩ := (expr.matches_descends _ _ _ _ matched).head
  obtain ⟨candidate, _, rfl⟩ := Option.map_eq_some_iff.mp reported
  have firstAtom : candidate.atoms.head? = some innermost := first
  simp [MatchResult.ofCandidate, firstAtom]

/-- The atoms give the start and the end. -/
theorem MatchResult.eq_of_atoms {limit : Nat} {result other : MatchResult}
    (descent : Descent result.start limit result.atoms)
    (otherDescent : Descent other.start limit other.atoms)
    (stop : result.atoms.head?.map (·.index + 1) = some result.stop)
    (otherStop : other.atoms.head?.map (·.index + 1) = some other.stop)
    (same : result.atoms = other.atoms) : result = other := by
  have start := descent.last_index
  rw [same, otherDescent.last_index] at start
  rw [same, otherStop] at stop
  cases result
  cases other
  rw [MatchResult.mk.injEq]
  exact ⟨(Option.some.inj start).symm, (Option.some.inj stop).symm, same⟩

/-- A match with the greatest atoms is what an expression reports, and nothing else is. -/
theorem Expr.match?_eq_some_iff (expr : Expr) (path : ScopePath) (result : MatchResult) :
    expr.match? path = some result ↔
      expr.Matches path.scopes path.depth result.start result.atoms ∧
      (∀ start atoms, expr.Matches path.scopes path.depth start atoms →
        (compare atoms result.atoms).isLE) ∧
      result.atoms.head?.map (·.index + 1) = some result.stop := by
  rcases expr.match?_cases path with ⟨absent, unmatched⟩ | ⟨found, reported, matched, above⟩
  · constructor
    · intro reported
      rw [absent] at reported
      contradiction
    · rintro ⟨matched, _⟩
      exact absurd matched (unmatched _ _)
  · have stop := Expr.stop_of_match? reported matched
    constructor
    · intro same
      obtain rfl := Option.some.inj (reported.symm.trans same)
      exact ⟨matched, above, stop⟩
    · rintro ⟨otherMatched, otherAbove, otherStop⟩
      have order : compare found.atoms result.atoms = .eq :=
        Std.OrientedCmp.isLE_antisymm (otherAbove _ _ matched) (above _ _ otherMatched)
      have same : found = result := MatchResult.eq_of_atoms
        (expr.matches_descends _ _ _ _ matched) (expr.matches_descends _ _ _ _ otherMatched)
        stop otherStop (Std.LawfulEqOrd.eq_of_compare order)
      rw [reported, same]

/-- Expressions with the same matches in a path report the same. -/
theorem Expr.match?_congr {expr other : Expr} {path : ScopePath}
    (same : expr.Matches path.scopes = other.Matches path.scopes) :
    expr.match? path = other.match? path := by
  ext result
  rw [match?_eq_some_iff, match?_eq_some_iff, same]

/-- Some match in the whole path has this specificity. -/
def Reaches (selector : Selector) (path : ScopePath) (specificity : Specificity) : Prop :=
  ∃ start atoms, selector.expr.Matches path.scopes path.depth start atoms ∧
    specificity = .ofAtoms atoms

theorem Reaches.weights_ne_nil {selector : Selector} {path : ScopePath} {specificity : Specificity}
    (reaches : selector.Reaches path specificity) : specificity.weights ≠ [] := by
  obtain ⟨start, atoms, matched, rfl⟩ := reaches
  obtain ⟨innermost, first, _⟩ := (Expr.matches_descends path.scopes _ _ _ _ matched).head
  cases atoms with
  | nil => contradiction
  | cons atom rest => simp [Specificity.ofAtoms, Specificity.ofMatch]

theorem rank?_eq_none_iff (selector : Selector) (path : ScopePath) :
    selector.rank? path = none ↔ ∀ specificity, ¬ selector.Reaches path specificity := by
  rw [rank?, Option.map_eq_none_iff, match?]
  rcases selector.expr.match?_cases path with ⟨absent, unmatched⟩ | ⟨result, found, matched, _⟩
  · simp only [absent, true_iff]
    rintro specificity ⟨start, atoms, matched, rfl⟩
    exact unmatched start atoms matched
  · simp only [found, reduceCtorEq, false_iff]
    intro unreached
    exact unreached _ ⟨_, _, matched, rfl⟩

/-- The greatest specificity is what a selector has, and nothing else is. -/
theorem rank?_eq_some_iff (selector : Selector) (path : ScopePath) (specificity : Specificity) :
    selector.rank? path = some specificity ↔ selector.Reaches path specificity ∧
      ∀ other, selector.Reaches path other → (compare other specificity).isLE := by
  have greatest : ∀ found, selector.rank? path = some found → selector.Reaches path found ∧
      ∀ other, selector.Reaches path other → (compare other found).isLE := by
    intro found ranked
    rw [rank?, match?] at ranked
    rcases selector.expr.match?_cases path with ⟨absent, _⟩ | ⟨best, result, matched, above⟩
    · rw [absent] at ranked
      contradiction
    · rw [result] at ranked
      cases ranked
      refine ⟨⟨_, _, matched, rfl⟩, ?_⟩
      rintro other ⟨start, atoms, otherMatched, rfl⟩
      have below := above start atoms otherMatched
      rwa [← Specificity.compare_ofAtoms] at below
  refine ⟨greatest specificity, ?_⟩
  rintro ⟨reaches, above⟩
  cases ranked : selector.rank? path with
  | none => exact absurd reaches ((selector.rank?_eq_none_iff path).mp ranked specificity)
  | some found =>
    obtain ⟨reachesFound, aboveFound⟩ := greatest found ranked
    have same : compare found specificity = .eq :=
      Std.OrientedCmp.isLE_antisymm (above found reachesFound) (aboveFound specificity reaches)
    rw [Std.LawfulEqOrd.eq_of_compare same]

theorem Reaches.exists_rank? {selector : Selector} {path : ScopePath} {specificity : Specificity}
    (reaches : selector.Reaches path specificity) :
    ∃ greatest, selector.rank? path = some greatest ∧ (compare specificity greatest).isLE := by
  cases ranked : selector.rank? path with
  | none => exact absurd reaches ((selector.rank?_eq_none_iff path).mp ranked specificity)
  | some greatest =>
    exact ⟨greatest, rfl, ((selector.rank?_eq_some_iff path _).mp ranked).2 specificity reaches⟩

end Selector

end ScopeCascade
