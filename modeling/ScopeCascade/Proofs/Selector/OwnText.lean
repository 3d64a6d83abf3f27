import ScopeCascade.Proofs.Scope.Text
import ScopeCascade.Proofs.Selector.Joining
import ScopeCascade.Proofs.Selector.WellFormed

/-! The text of a path, read as a selector. Unless a scope begins with a minus sign, which is an
operator there, the selector is the sequence of all scopes of the path. It matches the path from end
to end, with every scope in full, and no selector matches the path more specifically. -/
namespace ScopeCascade

/-- The scope's text begins with the sign of an exclusion. -/
def Scope.BeginsWithMinus (scope : Scope) : Prop := scope.chars.head? = some '-'

namespace Selector

/-- The text of some scopes in a row. -/
def wordsOf (scopes : List Scope) : List Char := [' '].intercalate (scopes.map Scope.chars)

/-- The sequence of some scopes; a single one stands for itself. -/
def Expr.ofScopes (scopes : List Scope) : Expr := .ofTerms (scopes.map .atom)

/-- All scopes in full, the innermost first. -/
def allInFull (scopes : List Scope) : List AtomMatch :=
  (scopes.mapIdx fun index scope => ⟨index, scope.length⟩).reverse

theorem wordsOf_cons_cons (scope next : Scope) (rest : List Scope) :
    wordsOf (scope :: next :: rest) = scope.chars ++ ' ' :: wordsOf (next :: rest) := by
  simp [wordsOf, List.intercalate_cons_cons]

theorem allInFull_append (outer : List Scope) (scope : Scope) :
    allInFull (outer ++ [scope]) = ⟨outer.length, scope.length⟩ :: allInFull outer := by
  rw [allInFull, List.mapIdx_concat, List.reverse_append]
  rfl

theorem first_allInFull {scopes : List Scope} (nonempty : scopes ≠ []) :
    (allInFull scopes).head?.map (·.index + 1) = some scopes.length := by
  obtain ⟨outer, scope, rfl⟩ := (List.eq_nil_or_concat scopes).resolve_left nonempty
  simp [allInFull_append]

namespace Token

theorem kinds_of_scope {scope : Scope} (begins : ¬ scope.BeginsWithMinus) (rest : List Char)
    (ends : ∀ c, rest.head? = some c → ¬ isRunChar c) :
    kinds (scope.chars ++ rest) = .atom scope.chars :: kinds rest := by
  refine kinds_of_atom scope.chars_ne_nil (fun c member => ?_) begins ends
  rw [isRunChar, Bool.or_eq_true, decide_eq_true_iff]
  exact scope.mem_chars c member

theorem kinds_of_first {scope : Scope} (begins : ¬ scope.BeginsWithMinus) (rest : List Scope) :
    kinds (wordsOf (scope :: rest)) = .atom scope.chars :: kinds (wordsOf rest) := by
  cases rest with
  | nil =>
    have alone := kinds_of_scope begins [] (by simp)
    simpa [wordsOf] using alone
  | cons next rest =>
    have space : kinds (' ' :: wordsOf (next :: rest)) = kinds (wordsOf (next :: rest)) :=
      kinds_of_isBlank (by decide) _
    have outside : ∀ c, (' ' :: wordsOf (next :: rest)).head? = some c → ¬ isRunChar c := by
      intro c first
      cases first
      decide
    rw [wordsOf_cons_cons, kinds_of_scope begins _ outside, space]

theorem kinds_wordsOf {scopes : List Scope} (begin : ∀ scope ∈ scopes, ¬ scope.BeginsWithMinus) :
    kinds (wordsOf scopes) = scopes.map fun scope => .atom scope.chars := by
  induction scopes with
  | nil => rfl
  | cons scope rest ih =>
    obtain ⟨first, later⟩ := List.forall_mem_cons.mp begin
    rw [kinds_of_first first, ih later, List.map_cons]

theorem minus_mem_kinds_wordsOf {scopes : List Scope} {scope : Scope} (member : scope ∈ scopes)
    (begins : scope.BeginsWithMinus) : .minus ∈ kinds (wordsOf scopes) := by
  -- The first scope with the sign counts: only before it do the scopes read as atoms.
  induction scopes with
  | nil => contradiction
  | cons first rest ih =>
    by_cases firstBegins : first.BeginsWithMinus
    · obtain ⟨more, same⟩ : ∃ more, wordsOf (first :: rest) = '-' :: more := by
        obtain ⟨chars, same⟩ := List.head?_eq_some_iff.mp firstBegins
        cases rest with
        | nil => exact ⟨chars, by simp [wordsOf, same]⟩
        | cons next rest => exact ⟨_, by rw [wordsOf_cons_cons, same, List.cons_append]⟩
      have sign : TokenKind.ofSign? '-' = some .minus := rfl
      rw [same, kinds_of_sign sign]
      exact List.mem_cons_self
    · rw [kinds_of_first firstBegins]
      rcases List.mem_cons.mp member with rfl | later
      · contradiction
      · exact List.mem_cons_of_mem _ (ih later)

end Token

namespace Grammar

theorem terms_of_scopes {scopes : List Scope} (nonempty : scopes ≠ []) :
    Terms (scopes.map fun scope => .atom scope.chars) (scopes.map .atom) := by
  induction scopes using List.reverseRecOn with
  | nil => contradiction
  | append_singleton outer scope ih =>
    have last : Term [.atom scope.chars] (.atom scope) := .atom scope.splitOn_chars.symm
    rw [List.map_append, List.map_append]
    by_cases single : outer = []
    · subst single
      exact .first last
    · exact .next (ih single) last

theorem Term.minus_notMem {tokens : List TokenKind} {scope : Scope}
    (derived : Term tokens (.atom scope)) : .minus ∉ tokens := by
  cases derived
  simp

theorem Terms.minus_notMem {tokens : List TokenKind} {terms : List Expr}
    (derived : Terms tokens terms) (atoms : ∀ term ∈ terms, ∃ scope, term = .atom scope) :
    .minus ∉ tokens := by
  match derived with
  | .first term =>
    obtain ⟨scope, rfl⟩ := atoms _ (List.mem_singleton_self _)
    exact term.minus_notMem
  | .next earlier term =>
    obtain ⟨before, last⟩ := List.forall_mem_append.mp atoms
    obtain ⟨scope, rfl⟩ := last _ (List.mem_singleton_self _)
    rw [List.mem_append, not_or]
    exact ⟨earlier.minus_notMem before, term.minus_notMem⟩

/-- A minus sign among the tokens would have left an exclusion. -/
theorem Whole.minus_notMem {tokens : List TokenKind} {scopes : List Scope}
    (nonempty : scopes ≠ []) (derived : Whole tokens (Expr.ofScopes scopes)) :
    .minus ∉ tokens := by
  match scopes with
  | [] => contradiction
  | [scope] =>
    cases derived with
    | exclusion exclusion =>
      cases exclusion with
      | sequence sequence =>
        cases sequence with
        | single term => exact term.minus_notMem
  | first :: next :: rest =>
    cases derived with
    | exclusion exclusion =>
      cases exclusion with
      | sequence sequence =>
        cases sequence with
        | single term => cases term
        | several terms _ =>
          exact terms.minus_notMem (List.forall_mem_map (l := first :: next :: rest).mpr
            fun scope _ => ⟨scope, rfl⟩)

end Grammar

/-- The text reads as the sequence of the scopes unless one of them begins with a minus sign. -/
theorem Expr.ofChars_wordsOf_iff {scopes : List Scope} (nonempty : scopes ≠ []) :
    Expr.ofChars (wordsOf scopes) = .ok (Expr.ofScopes scopes) ↔
      ∀ scope ∈ scopes, ¬ scope.BeginsWithMinus := by
  rw [Expr.ofChars_eq_ok_iff]
  constructor
  · rintro ⟨tokens, lexes, derived⟩ scope member begins
    have present := Token.minus_mem_kinds_wordsOf member begins
    rw [Token.kinds_of_lexes lexes] at present
    exact derived.minus_notMem nonempty present
  · intro begin
    refine ⟨scopes.map fun scope => .atom scope.chars, (Token.lexes_iff _ _).mpr ⟨?_, ?_⟩, ?_⟩
    · exact (Token.kinds_wordsOf begin).symm
    · exact List.forall_mem_map.mpr fun scope _ => scope.ne_nil_of_mem_splitOn_chars
    · exact .exclusion (.sequence (Grammar.terms_of_scopes nonempty).sequence)

theorem Expr.matches_ofScopes (path : List Scope) {scopes : List Scope} (nonempty : scopes ≠ []) :
    (Expr.ofScopes scopes).Matches path =
      Reading.chain (scopes.map (Reading.atom path)).reverse := by
  match scopes with
  | [] => contradiction
  | [scope] => rfl
  | first :: next :: rest =>
    have several : Expr.ofScopes (first :: next :: rest) =
        .sequence ((first :: next :: rest).map .atom) := rfl
    rw [several, Expr.matches_sequence, List.map_map]
    rfl

/-- Scopes that a path begins with match it one after the other. -/
theorem Reading.chain_outer (path : List Scope) {outer : List Scope} (nonempty : outer ≠ [])
    (begins : outer <+: path) {limit : Nat} (within : outer.length ≤ limit) :
    Reading.chain (outer.map (Reading.atom path)).reverse limit 0 (allInFull outer) := by
  -- The chain starts with the innermost scope, whose place is the limit of the others.
  induction outer using List.reverseRecOn generalizing limit with
  | nil => contradiction
  | append_singleton outer scope ih =>
    have located : path[outer.length]? = some scope := by
      obtain ⟨rest, rfl⟩ := begins
      simp
    have innermost : Reading.atom path scope limit outer.length [⟨outer.length, scope.length⟩] := by
      rw [List.length_append, List.length_singleton] at within
      exact ⟨within, ⟨scope, located, List.prefix_refl _⟩, rfl⟩
    rw [List.map_append, List.reverse_append, allInFull_append]
    by_cases single : outer = []
    · subst single
      exact innermost
    · refine (Reading.chain_cons (by simpa using single)).mpr ⟨_, _, _, innermost, ?_, rfl⟩
      exact ih single ((List.prefix_append _ _).trans begins) (Nat.le_refl _)

theorem Descent.uncons {start limit : Nat} {atoms : List AtomMatch}
    (descent : Descent start limit atoms) :
    ∃ innermost rest, atoms = innermost :: rest ∧ innermost.index < limit ∧
      (rest = [] ∨ Descent start innermost.index rest) := by
  cases descent with
  | last below => exact ⟨_, _, rfl, below, .inl rfl⟩
  | step below inner => exact ⟨_, _, rfl, below, .inr inner⟩

theorem AtomMatch.eq_or_lt {atom other : AtomMatch} (depth : atom.index ≤ other.index)
    (length : atom.index = other.index → atom.segments ≤ other.segments) :
    atom = other ∨ compare atom other = .lt := by
  rcases Nat.lt_or_eq_of_le depth with shallower | level
  · exact .inr (AtomMatch.lt_of_index_lt shallower)
  · rcases Nat.lt_or_eq_of_le (length level) with shorter | same
    · refine .inr ?_
      rw [AtomMatch.compare_eq, level, Nat.compare_eq_eq.mpr rfl, Nat.compare_eq_lt.mpr shorter]
      rfl
    · cases atom
      cases other
      exact .inl (AtomMatch.mk.injEq .. ▸ ⟨level, same⟩)

/-- No match inside a path is more specific than all scopes in full. -/
theorem compare_allInFull_isLE (scopes : List Scope) {start limit : Nat} {atoms : List AtomMatch}
    (descent : Descent start limit atoms) (within : limit ≤ scopes.length)
    (fits : ∀ entry ∈ atoms, ∃ found, scopes[entry.index]? = some found ∧
      entry.segments ≤ found.length) :
    (compare atoms (allInFull scopes)).isLE := by
  -- The innermost entry is at most the innermost scope; if it is that scope in full, all other
  -- entries are inside the scopes before.
  induction scopes using List.reverseRecOn generalizing limit atoms with
  | nil =>
    have below := descent.start_lt
    rw [List.length_nil] at within
    omega
  | append_singleton outer scope ih =>
    obtain ⟨innermost, rest, rfl, below, remaining⟩ := descent.uncons
    obtain ⟨⟨found, located, segments⟩, later⟩ := List.forall_mem_cons.mp fits
    rw [List.length_append, List.length_singleton] at within
    have depth : innermost.index ≤ outer.length := by omega
    have length : innermost.index = outer.length → innermost.segments ≤ scope.length := by
      intro level
      rw [level, List.getElem?_concat_length] at located
      cases located
      exact segments
    have first : innermost = ⟨outer.length, scope.length⟩ ∨
        compare innermost ⟨outer.length, scope.length⟩ = .lt := AtomMatch.eq_or_lt depth length
    rw [allInFull_append, List.compare_cons_cons]
    rcases first with rfl | less
    · have level : compare (⟨outer.length, scope.length⟩ : AtomMatch) ⟨outer.length, scope.length⟩ =
          .eq := Std.ReflCmp.compare_self
      rw [level, Ordering.eq_then]
      rcases remaining with rfl | inner
      · cases allInFull outer <;> rfl
      · refine ih inner (Nat.le_refl _) fun entry member => ?_
        have inside : entry.index < outer.length := inner.index_lt entry member
        have fitsEntry := later entry member
        rwa [List.getElem?_append_left inside] at fitsEntry
    · rw [less]
      rfl

theorem Expr.Matches.isLE_allInFull {expr : Expr} {path : ScopePath} {start : Nat}
    {atoms : List AtomMatch} (matched : expr.Matches path.scopes path.depth start atoms) :
    (compare atoms (allInFull path.scopes)).isLE := by
  refine compare_allInFull_isLE path.scopes (expr.matches_descends _ _ _ _ matched)
    (Nat.le_refl _) fun entry member => ?_
  obtain ⟨scope, found, _, length, located, begins⟩ :=
    expr.matches_draw _ _ _ _ matched entry member
  exact ⟨found, located, length ▸ begins.length_le⟩

/-- A path's own text parses to the sequence of its scopes if and only if none of them begins with a
minus sign. This selector matches the path with every scope in full, and any selector that matches
the path does so at most as specifically. -/
theorem own_text_most_specific (path : ScopePath) :
    ((∃ selector, parse path.text = .ok selector ∧ selector.expr = .ofScopes path.scopes) ↔
      ∀ scope ∈ path.scopes, ¬ scope.BeginsWithMinus) ∧
    (∀ selector : Selector, selector.expr = .ofScopes path.scopes →
      selector.match? path = some ⟨0, path.depth, allInFull path.scopes⟩) ∧
    ∀ (selector : Selector) (specificity : Specificity), selector.rank? path = some specificity →
      (compare specificity (.ofMatch ⟨0, path.depth, allInFull path.scopes⟩)).isLE := by
  have nonempty := path.scopes_ne_nil
  have chars : path.text.toList = wordsOf path.scopes := String.toList_ofList
  refine ⟨?_, ?_, ?_⟩
  · rw [← Expr.ofChars_wordsOf_iff nonempty, ← chars]
    constructor
    · rintro ⟨selector, parsed, same⟩
      rw [← same]
      exact ((parse_eq_ok_iff _ _).mp parsed).1
    · intro reads
      exact ⟨⟨Text.trim path.text.toList, _⟩, (parse_eq_ok_iff _ _).mpr ⟨reads, rfl⟩, rfl⟩
  · intro selector same
    refine (selector.expr.match?_eq_some_iff path _).mpr ⟨?_, ?_, first_allInFull nonempty⟩
    · rw [same, Expr.matches_ofScopes path.scopes nonempty]
      exact Reading.chain_outer path.scopes nonempty (List.prefix_refl _) (Nat.le_refl _)
    · exact fun start atoms matched => Expr.Matches.isLE_allInFull matched
  · intro selector specificity ranked
    obtain ⟨⟨start, atoms, matched, rfl⟩, _⟩ := (selector.rank?_eq_some_iff path _).mp ranked
    have below := Expr.Matches.isLE_allInFull matched
    rwa [← Specificity.compare_ofAtoms] at below

end Selector

end ScopeCascade
