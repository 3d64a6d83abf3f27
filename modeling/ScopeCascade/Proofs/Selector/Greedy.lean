import ScopeCascade.Proofs.Selector.OwnText

/-! A sequence of atoms needs no search. One pass from the innermost atom outwards, in which each
atom takes the deepest scope above the one before, finds a match if there is any, and it is the
greatest. Hence one more atom in front only adds an entry behind all others. -/
namespace ScopeCascade.Selector

/-- The deepest scope before a limit that begins with all segments of the atom. -/
def deepest? (path : List Scope) (atom : Scope) : Nat → Option Nat
  | 0 => none
  | limit + 1 =>
    if path[limit]?.any atom.isPrefixOf then some limit else deepest? path atom limit

/-- The greedy choice for some atoms, the innermost first: each takes the deepest scope before the
limit, which is then the limit of the next. -/
def greedy? (path : List Scope) : List Scope → Nat → Option (List AtomMatch)
  | [], _ => some []
  | atom :: outer, limit =>
    (deepest? path atom limit).bind fun index =>
      (greedy? path outer index).map (⟨index, atom.length⟩ :: ·)

/-- The match with these entries, which are not none. -/
def MatchResult.ofAtoms (atoms : List AtomMatch) : MatchResult :=
  ⟨(atoms.getLast?.map (·.index)).getD 0, (atoms.head?.map (·.index + 1)).getD 0, atoms⟩

variable {path : List Scope} {limit index : Nat}

theorem any_isPrefixOf_iff {atom : Scope} :
    path[index]?.any atom.isPrefixOf = true ↔
      ∃ found, path[index]? = some found ∧ atom.segments <+: found.segments := by
  simp [Option.any_eq_true, Scope.isPrefixOf]

theorem deepest?_eq_some_iff {atom : Scope} :
    deepest? path atom limit = some index ↔
      index < limit ∧ path[index]?.any atom.isPrefixOf ∧
        ∀ deeper < limit, path[deeper]?.any atom.isPrefixOf → deeper ≤ index := by
  induction limit with
  | zero => simp [deepest?]
  | succ limit ih =>
    rw [deepest?]
    split
    · rename_i begins
      constructor
      · rintro same
        cases same
        exact ⟨Nat.lt_succ_self _, begins, fun _ below _ => Nat.le_of_lt_succ below⟩
      · rintro ⟨below, _, deepest⟩
        have above := deepest limit (Nat.lt_succ_self _) begins
        exact congrArg some (Nat.le_antisymm above (Nat.le_of_lt_succ below))
    · rename_i differs
      rw [ih]
      constructor
      · rintro ⟨below, begins, deepest⟩
        refine ⟨Nat.lt_succ_of_lt below, begins, fun deeper within other => ?_⟩
        rcases Nat.lt_succ_iff_lt_or_eq.mp within with inside | rfl
        · exact deepest deeper inside other
        · contradiction
      · rintro ⟨within, begins, deepest⟩
        rcases Nat.lt_succ_iff_lt_or_eq.mp within with inside | rfl
        · exact ⟨inside, begins, fun deeper below => deepest deeper (Nat.lt_succ_of_lt below)⟩
        · contradiction

theorem deepest?_eq_none_iff {atom : Scope} :
    deepest? path atom limit = none ↔ ∀ index < limit, ¬ path[index]?.any atom.isPrefixOf := by
  induction limit with
  | zero => simp [deepest?]
  | succ limit ih =>
    rw [deepest?]
    split
    · rename_i begins
      simp only [reduceCtorEq, false_iff]
      exact fun none => none limit (Nat.lt_succ_self _) begins
    · rename_i differs
      rw [ih, Nat.forall_lt_succ_right]
      exact ⟨fun none => ⟨none, differs⟩, And.left⟩

theorem greedy?_cons_eq_some_iff {atom : Scope} {outer : List Scope} {chosen : List AtomMatch} :
    greedy? path (atom :: outer) limit = some chosen ↔
      ∃ index rest, deepest? path atom limit = some index ∧ greedy? path outer index = some rest ∧
        chosen = ⟨index, atom.length⟩ :: rest := by
  simp only [greedy?, Option.bind_eq_some_iff, Option.map_eq_some_iff]
  constructor
  · rintro ⟨index, deepest, rest, greedy, rfl⟩
    exact ⟨index, rest, deepest, greedy, rfl⟩
  · rintro ⟨index, rest, deepest, greedy, rfl⟩
    exact ⟨index, deepest, rest, greedy, rfl⟩

theorem AtomMatch.compare_append_lt (atoms : List AtomMatch) (last : AtomMatch) :
    compare atoms (atoms ++ [last]) = .lt := by
  induction atoms with
  | nil => rfl
  | cons atom rest ih =>
    simpa [List.compare_cons_cons] using ih

namespace Reading

theorem atom_of_deepest? {atom : Scope} (deepest : deepest? path atom limit = some index) :
    Reading.atom path atom limit index [⟨index, atom.length⟩] := by
  obtain ⟨below, begins, _⟩ := deepest?_eq_some_iff.mp deepest
  exact ⟨below, any_isPrefixOf_iff.mp begins, rfl⟩

theorem atom_le_deepest? {atom : Scope} {start : Nat} {atoms : List AtomMatch}
    (matched : Reading.atom path atom limit start atoms) :
    ∃ index, deepest? path atom limit = some index ∧ start ≤ index ∧
      atoms = [⟨start, atom.length⟩] := by
  obtain ⟨below, found, rfl⟩ := matched
  have begins := any_isPrefixOf_iff.mpr found
  cases deepest : deepest? path atom limit with
  | none => exact absurd begins (deepest?_eq_none_iff.mp deepest start below)
  | some index =>
    exact ⟨index, rfl, (deepest?_eq_some_iff.mp deepest).2.2 start below begins, rfl⟩

/-- The greedy choice is a match. -/
theorem chain_of_greedy? {atom : Scope} {outer : List Scope} {chosen : List AtomMatch}
    (greedy : greedy? path (atom :: outer) limit = some chosen) :
    ∃ start, chain ((atom :: outer).map (Reading.atom path)) limit start chosen := by
  induction outer generalizing atom limit chosen with
  | nil =>
    obtain ⟨index, rest, deepest, none, rfl⟩ := greedy?_cons_eq_some_iff.mp greedy
    cases none
    exact ⟨index, atom_of_deepest? deepest⟩
  | cons next outer ih =>
    obtain ⟨index, rest, deepest, later, rfl⟩ := greedy?_cons_eq_some_iff.mp greedy
    obtain ⟨start, outside⟩ := ih later
    exact ⟨start, index, _, rest, atom_of_deepest? deepest, outside, rfl⟩

/-- A match stays one when the window grows: only the innermost atom depends on the limit. -/
theorem chain_widen {atoms : List Scope} {wider start : Nat} {entries : List AtomMatch}
    (matched : chain (atoms.map (Reading.atom path)) limit start entries) (grows : limit ≤ wider) :
    chain (atoms.map (Reading.atom path)) wider start entries := by
  match atoms with
  | [] => exact matched
  | [_] =>
    obtain ⟨below, found⟩ := matched
    exact ⟨below.trans_le grows, found⟩
  | _ :: _ :: _ =>
    obtain ⟨middle, deeper, outer, ⟨below, found⟩, outside⟩ := matched
    exact ⟨middle, deeper, outer, ⟨below.trans_le grows, found⟩, outside⟩

/-- No match is greater than the greedy choice. If a match takes a shallower scope for an atom, the
atoms outside of it find the same scopes above the deepest one. -/
theorem chain_le_greedy? {atom : Scope} {outer : List Scope} {start : Nat}
    {entries : List AtomMatch}
    (matched : chain ((atom :: outer).map (Reading.atom path)) limit start entries) :
    ∃ chosen, greedy? path (atom :: outer) limit = some chosen ∧
      (compare entries chosen).isLE := by
  induction outer generalizing atom limit entries with
  | nil =>
    obtain ⟨index, deepest, above, rfl⟩ := atom_le_deepest? matched
    refine ⟨_, greedy?_cons_eq_some_iff.mpr ⟨index, [], deepest, rfl, rfl⟩, ?_⟩
    exact AtomMatch.compare_cons_isLE above Std.ReflCmp.isLE_rfl
  | cons next outer ih =>
    obtain ⟨middle, deeper, rest, inner, outside, rfl⟩ := matched
    obtain ⟨index, deepest, above, rfl⟩ := atom_le_deepest? inner
    obtain ⟨chosen, greedy, below⟩ := ih (chain_widen outside above)
    refine ⟨_, greedy?_cons_eq_some_iff.mpr ⟨index, chosen, deepest, greedy, rfl⟩, ?_⟩
    exact AtomMatch.compare_cons_isLE above below

end Reading

/-- The greedy choice is the match of a sequence of atoms. -/
theorem Expr.match?_ofScopes {atoms : List Scope} (nonempty : atoms ≠ []) (path : ScopePath) :
    (Expr.ofScopes atoms).match? path =
      (greedy? path.scopes atoms.reverse path.depth).map .ofAtoms := by
  obtain ⟨innermost, outer, reversed⟩ :=
    List.exists_cons_of_ne_nil (List.reverse_eq_nil_iff.not.mpr nonempty)
  have reading : (Expr.ofScopes atoms).Matches path.scopes =
      Reading.chain ((innermost :: outer).map (Reading.atom path.scopes)) := by
    rw [Expr.matches_ofScopes path.scopes nonempty, ← List.map_reverse, reversed]
  rw [reversed]
  cases greedy : greedy? path.scopes (innermost :: outer) path.depth with
  | none =>
    refine Option.eq_none_iff_forall_ne_some.mpr fun result reported => ?_
    obtain ⟨matched, _⟩ := (Expr.match?_eq_some_iff _ _ _).mp reported
    rw [reading] at matched
    obtain ⟨chosen, found, _⟩ := Reading.chain_le_greedy? matched
    rw [greedy] at found
    contradiction
  | some chosen =>
    obtain ⟨start, matched⟩ := Reading.chain_of_greedy? greedy
    rw [← reading] at matched
    have descent := Expr.matches_descends _ _ _ _ _ matched
    obtain ⟨first, filled, _⟩ := descent.head
    have startAt : (MatchResult.ofAtoms chosen).start = start := by
      rw [MatchResult.ofAtoms, descent.last_index, Option.getD_some]
    refine (Expr.match?_eq_some_iff _ _ _).mpr ⟨startAt ▸ matched, ?_, ?_⟩
    · intro other entries otherMatched
      rw [reading] at otherMatched
      obtain ⟨greatest, found, below⟩ := Reading.chain_le_greedy? otherMatched
      cases greedy.symm.trans found
      exact below
    · simp [MatchResult.ofAtoms, filled]

/-- One more atom behind the others gets the last entry and changes none before. -/
theorem greedy?_concat {inner : List Scope} {atom : Scope} {entries : List AtomMatch}
    (greedy : greedy? path (inner ++ [atom]) limit = some entries) :
    ∃ chosen outermost, greedy? path inner limit = some chosen ∧
      entries = chosen ++ [outermost] := by
  induction inner generalizing limit entries with
  | nil =>
    obtain ⟨index, rest, _, none, rfl⟩ := greedy?_cons_eq_some_iff.mp greedy
    cases none
    exact ⟨[], _, rfl, rfl⟩
  | cons innermost inner ih =>
    obtain ⟨index, rest, deepest, later, rfl⟩ := greedy?_cons_eq_some_iff.mp greedy
    obtain ⟨chosen, outermost, found, rfl⟩ := ih later
    exact ⟨_, outermost, greedy?_cons_eq_some_iff.mpr ⟨index, chosen, deepest, found, rfl⟩, rfl⟩

/-- A selector that is a sequence of atoms, as the texts of these atoms read with spaces between
them, matches a path if and only if the greedy choice succeeds, and reports that choice. With one
more atom in front it matches only where it matches without; it then reports one more entry, behind
the same others, and has a greater specificity. -/
theorem atoms_matched_greedily {atoms : List Scope} (nonempty : atoms ≠ []) :
    ((∀ atom ∈ atoms, ¬ atom.BeginsWithMinus) → ∃ selector,
      parse (String.ofList (wordsOf atoms)) = .ok selector ∧ selector.expr = .ofScopes atoms) ∧
    ∀ selector : Selector, selector.expr = .ofScopes atoms → ∀ path : ScopePath,
      selector.match? path = (greedy? path.scopes atoms.reverse path.depth).map .ofAtoms ∧
      ∀ (outer : Scope) (longer : Selector) (result : MatchResult),
        longer.expr = .ofScopes (outer :: atoms) → longer.match? path = some result →
        ∃ (shorter : MatchResult) (outermost : AtomMatch), selector.match? path = some shorter ∧
          result.atoms = shorter.atoms ++ [outermost] ∧
          compare (Specificity.ofMatch shorter) (Specificity.ofMatch result) = .lt := by
  refine ⟨fun begin => ?_, fun selector same path => ?_⟩
  · have reads : Expr.ofChars (String.ofList (wordsOf atoms)).toList = .ok (.ofScopes atoms) := by
      rw [String.toList_ofList]
      exact (Expr.ofChars_wordsOf_iff nonempty).mpr begin
    exact ⟨⟨_, _⟩, (parse_eq_ok_iff _ _).mpr ⟨reads, rfl⟩, rfl⟩
  have greedy : selector.match? path =
      (greedy? path.scopes atoms.reverse path.depth).map .ofAtoms := by
    rw [match?, same, Expr.match?_ofScopes nonempty]
  refine ⟨greedy, fun outer longer result sameLonger reported => ?_⟩
  rw [match?, sameLonger, Expr.match?_ofScopes (List.cons_ne_nil _ _), List.reverse_cons,
    Option.map_eq_some_iff] at reported
  obtain ⟨entries, found, rfl⟩ := reported
  obtain ⟨chosen, outermost, without, rfl⟩ := greedy?_concat found
  refine ⟨.ofAtoms chosen, outermost, by rw [greedy, without]; rfl, rfl, ?_⟩
  rw [compare_ofMatch]
  exact AtomMatch.compare_append_lt chosen outermost

theorem atoms_matched_greedily_in_nested_blocks :
    let source : Scope := ⟨[⟨"source".toList, by decide⟩], by decide⟩
    let block : Scope := ⟨[⟨"block".toList, by decide⟩], by decide⟩
    let string : Scope := ⟨[⟨"string".toList, by decide⟩], by decide⟩
    let quoted : Scope := ⟨[⟨"string".toList, by decide⟩, ⟨"quoted".toList, by decide⟩], by decide⟩
    let longer : Selector :=
      ⟨"source block string".toList, .sequence [.atom source, .atom block, .atom string]⟩
    let path : ScopePath := ⟨[source, block, quoted, block, string, block], by decide⟩
    let result : MatchResult := ⟨0, 5, [⟨4, 1⟩, ⟨3, 1⟩, ⟨0, 1⟩]⟩
    [block, string] ≠ [] ∧ (∀ atom ∈ [block, string], ¬ atom.BeginsWithMinus) ∧
      parse "source block string" = .ok longer ∧ longer.match? path = some result ∧
      ∃ selector : Selector, parse "block string" = .ok selector ∧
        selector.match? path = some ⟨3, 5, [⟨4, 1⟩, ⟨3, 1⟩]⟩ ∧
        ∃ (shorter : MatchResult) (outermost : AtomMatch), selector.match? path = some shorter ∧
          result.atoms = shorter.atoms ++ [outermost] ∧
          compare (Specificity.ofMatch shorter) (Specificity.ofMatch result) = .lt := by
  intro source block string quoted longer path result
  have begin : ∀ atom ∈ [block, string], ¬ atom.BeginsWithMinus := by
    intro atom member
    rw [Scope.BeginsWithMinus]
    rcases List.mem_pair.mp member with rfl | rfl <;> decide
  have reported : longer.match? path = some result := by cbv
  obtain ⟨reads, greedily⟩ := atoms_matched_greedily (List.cons_ne_nil block [string])
  obtain ⟨selector, parsed, same⟩ := reads begin
  obtain ⟨greedy, raised⟩ := greedily selector same path
  exact ⟨List.cons_ne_nil _ _, begin, by cbv, reported, selector, parsed, greedy,
    raised source longer result rfl reported⟩

end ScopeCascade.Selector
