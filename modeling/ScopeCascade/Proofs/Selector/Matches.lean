import ScopeCascade.Selector.Match

/-! What it means that an expression matches inside a window of a path, apart from any search: all
assignments of its atoms to scopes count. The atoms of a match descend from the window's limit to
the match's start, so of two matches with one start neither list of atoms continues the other. -/
namespace ScopeCascade.Selector

/-- The starts and the atoms that matches have inside the window before a limit. -/
abbrev Reading := Nat → Nat → List AtomMatch → Prop

namespace Reading

/-- A scope of the window that begins with all segments of the atom. -/
def atom (path : List Scope) (scope : Scope) : Reading := fun limit start atoms =>
  start < limit ∧ (∃ found, path[start]? = some found ∧ scope.segments <+: found.segments) ∧
    atoms = [⟨start, scope.length⟩]

/-- A match in one of several ways. -/
def any (readings : List Reading) : Reading := fun limit start atoms =>
  ∃ reading ∈ readings, reading limit start atoms

/-- A match of the innermost term, which comes first, and outside of it one of the other terms. -/
def chain : List Reading → Reading
  | [] => fun _ _ _ => False
  | [innermost] => innermost
  | innermost :: others => fun limit start atoms =>
    ∃ middle deeper outer, innermost limit middle deeper ∧ chain others middle start outer ∧
      atoms = deeper ++ outer

/-- A match of the one, where the other has none in the same window. -/
def except (kept excluded : Reading) : Reading := fun limit start atoms =>
  kept limit start atoms ∧ ¬ ∃ start atoms, excluded limit start atoms

theorem chain_cons {innermost : Reading} {others : List Reading} (several : others ≠ [])
    {limit start : Nat} {atoms : List AtomMatch} :
    chain (innermost :: others) limit start atoms ↔
      ∃ middle deeper outer, innermost limit middle deeper ∧ chain others middle start outer ∧
        atoms = deeper ++ outer := by
  cases others with
  | nil => contradiction
  | cons next rest => rfl

end Reading

mutual

/-- The matches of an expression in a path. -/
def Expr.Matches (path : List Scope) : Expr → Reading
  | .atom scope => Reading.atom path scope
  | .sequence terms => Reading.chain (Expr.readings path terms).reverse
  | .union alternatives => Reading.any (Expr.readings path alternatives)
  | .exclusion kept excluded =>
    Reading.except (Expr.Matches path kept) (Expr.Matches path excluded)
  | .group alternatives => Reading.any (Expr.readings path alternatives)

def Expr.readings (path : List Scope) : List Expr → List Reading
  | [] => []
  | expr :: rest => Expr.Matches path expr :: Expr.readings path rest

end

theorem Expr.readings_eq_map (path : List Scope) (exprs : List Expr) :
    Expr.readings path exprs = exprs.map (Expr.Matches path) := by
  induction exprs with
  | nil => rfl
  | cons expr rest ih => rw [Expr.readings, ih, List.map_cons]

theorem Expr.matches_sequence (path : List Scope) (terms : List Expr) :
    Expr.Matches path (.sequence terms) =
      Reading.chain (terms.map (Expr.Matches path)).reverse := by
  rw [Expr.Matches, Expr.readings_eq_map]

theorem AtomMatch.compare_eq (a b : AtomMatch) :
    compare a b = (compare a.index b.index).then (compare a.segments b.segments) := rfl

theorem AtomMatch.lt_of_index_lt {a b : AtomMatch} (deeper : a.index < b.index) :
    compare a b = .lt := by
  rw [compare_eq, Nat.compare_eq_lt.mpr deeper]
  rfl

/-- An atom that gets deeper makes the list no smaller. -/
theorem AtomMatch.compare_cons_isLE {depth deeper segments : Nat} {rest others : List AtomMatch}
    (above : depth ≤ deeper) (le : (compare rest others).isLE) :
    (compare (⟨depth, segments⟩ :: rest) (⟨deeper, segments⟩ :: others)).isLE := by
  rw [List.compare_cons_cons]
  rcases Nat.lt_or_eq_of_le above with less | rfl
  · have first : compare (⟨depth, segments⟩ : AtomMatch) ⟨deeper, segments⟩ = .lt :=
      AtomMatch.lt_of_index_lt less
    rw [first]
    rfl
  · simpa using le

/-- Atoms at decreasing places below a limit, the last one at the start. -/
inductive Descent (start : Nat) : Nat → List AtomMatch → Prop
  | last {limit segments : Nat} : start < limit → Descent start limit [⟨start, segments⟩]
  | step {limit : Nat} {atom : AtomMatch} {rest : List AtomMatch} : atom.index < limit →
      Descent start atom.index rest → Descent start limit (atom :: rest)

namespace Descent

variable {start limit : Nat} {atoms : List AtomMatch}

theorem start_lt (descent : Descent start limit atoms) : start < limit := by
  induction descent with
  | last below => exact below
  | step below _ ih => exact Nat.lt_trans ih below

theorem head (descent : Descent start limit atoms) :
    ∃ innermost, atoms.head? = some innermost ∧ innermost.index < limit := by
  cases descent with
  | last below => exact ⟨_, rfl, below⟩
  | step below _ => exact ⟨_, rfl, below⟩

theorem index_lt (descent : Descent start limit atoms) : ∀ atom ∈ atoms, atom.index < limit := by
  induction descent with
  | last below => exact List.forall_mem_singleton.mpr below
  | step below _ ih =>
    exact List.forall_mem_cons.mpr ⟨below, fun atom member => Nat.lt_trans (ih atom member) below⟩

theorem decreasing (descent : Descent start limit atoms) :
    atoms.Pairwise fun deeper outer => outer.index < deeper.index := by
  induction descent with
  | last _ => exact List.pairwise_singleton _ _
  | step _ inner ih => exact .cons inner.index_lt ih

theorem last_index (descent : Descent start limit atoms) :
    atoms.getLast?.map AtomMatch.index = some start := by
  induction descent with
  | last _ => rfl
  | @step _ _ rest _ inner ih =>
    obtain ⟨first, filled, _⟩ := inner.head
    cases rest with
    | nil => contradiction
    | cons next later => rwa [List.getLast?_cons_cons]

theorem start_le_first (descent : Descent start limit atoms) {innermost : AtomMatch}
    (first : atoms.head? = some innermost) : start ≤ innermost.index := by
  cases descent with
  | last _ =>
    cases first
    exact Nat.le_refl start
  | step _ inner =>
    cases first
    exact Nat.le_of_lt inner.start_lt

theorem append {middle : Nat} {deeper outer : List AtomMatch}
    (inner : Descent middle limit deeper) (outside : Descent start middle outer) :
    Descent start limit (deeper ++ outer) := by
  induction inner with
  | last below => exact .step below outside
  | step below _ ih => exact .step below ih

/-- Two descents to one start differ at an atom that both have, so nothing that follows changes
their order. -/
theorem append_lt {otherLimit : Nat} {others : List AtomMatch}
    (descent : Descent start limit atoms) (other : Descent start otherLimit others)
    (less : compare atoms others = .lt) (outer outer' : List AtomMatch) :
    compare (atoms ++ outer) (others ++ outer') = .lt := by
  induction descent generalizing otherLimit others with
  | @last limit segments below =>
    cases other with
    | @last _ otherSegments _ =>
      have first : compare (⟨start, segments⟩ : AtomMatch) ⟨start, otherSegments⟩ = .lt := by
        simpa [List.compare_cons_cons] using less
      simp [List.compare_cons_cons, first]
    | @step _ otherAtom _ _ otherInner =>
      have first : compare (⟨start, segments⟩ : AtomMatch) otherAtom = .lt :=
        AtomMatch.lt_of_index_lt otherInner.start_lt
      simp [List.compare_cons_cons, first]
  | @step limit atom rest below inner ih =>
    cases other with
    | @last _ otherSegments _ =>
      have greater : compare atom ⟨start, otherSegments⟩ = .gt :=
        Std.OrientedCmp.gt_of_lt (AtomMatch.lt_of_index_lt inner.start_lt)
      simp [List.compare_cons_cons, greater] at less
    | @step _ otherAtom otherRest _ otherInner =>
      simp only [List.cons_append, List.compare_cons_cons] at less ⊢
      cases first : compare atom otherAtom with
      | lt => rfl
      | eq =>
        rw [first] at less
        exact ih otherInner less
      | gt => simp [first] at less

theorem append_isLE {otherLimit : Nat} {others outer outer' : List AtomMatch}
    (descent : Descent start limit atoms) (other : Descent start otherLimit others)
    (le : (compare atoms others).isLE) (outerLE : (compare outer outer').isLE) :
    (compare (atoms ++ outer) (others ++ outer')).isLE := by
  rcases Ordering.isLE_iff_eq_lt_or_eq_eq.mp le with less | same
  · rw [descent.append_lt other less]
    rfl
  · rw [Std.LawfulEqOrd.eq_of_compare same]
    clear le same descent other
    induction others with
    | nil => exact outerLE
    | cons atom rest ih => simpa [List.compare_cons_cons] using ih

end Descent

namespace Reading

/-- Every match of a reading descends from the window's limit. -/
def Descends (reading : Reading) : Prop :=
  ∀ limit start atoms, reading limit start atoms → Descent start limit atoms

theorem atom_descends (path : List Scope) (scope : Scope) : (atom path scope).Descends := by
  rintro limit start atoms ⟨below, _, rfl⟩
  exact .last below

theorem any_descends {readings : List Reading} (each : ∀ reading ∈ readings, reading.Descends) :
    (any readings).Descends := by
  rintro limit start atoms ⟨reading, member, matched⟩
  exact each reading member limit start atoms matched

theorem chain_descends {readings : List Reading} (each : ∀ reading ∈ readings, reading.Descends) :
    (chain readings).Descends := by
  induction readings with
  | nil => exact fun _ _ _ matched => False.elim matched
  | cons innermost others ih =>
    have first := each innermost (by simp)
    cases others with
    | nil => exact first
    | cons next rest =>
      have later := ih fun reading member => each reading (by simp [member])
      rintro limit start atoms ⟨middle, deeper, outer, inner, outside, rfl⟩
      exact (first limit middle deeper inner).append (later middle start outer outside)

theorem except_descends {kept excluded : Reading} (each : kept.Descends) :
    (except kept excluded).Descends := fun limit start atoms matched =>
  each limit start atoms matched.1

end Reading

mutual

theorem Expr.matches_descends (path : List Scope) :
    (expr : Expr) → (Expr.Matches path expr).Descends
  | .atom scope => Reading.atom_descends path scope
  | .sequence terms => by
    rw [Expr.Matches]
    exact Reading.chain_descends fun reading member =>
      Expr.readings_descend path terms reading (List.mem_reverse.mp member)
  | .union alternatives => by
    rw [Expr.Matches]
    exact Reading.any_descends (Expr.readings_descend path alternatives)
  | .exclusion kept excluded => by
    rw [Expr.Matches]
    exact Reading.except_descends (Expr.matches_descends path kept)
  | .group alternatives => by
    rw [Expr.Matches]
    exact Reading.any_descends (Expr.readings_descend path alternatives)

theorem Expr.readings_descend (path : List Scope) :
    (exprs : List Expr) → ∀ reading ∈ Expr.readings path exprs, reading.Descends
  | [] => by
    intro reading member
    contradiction
  | expr :: rest => by
    intro reading member
    rcases List.mem_cons.mp member with rfl | member
    · exact Expr.matches_descends path expr
    · exact Expr.readings_descend path rest reading member

end

end ScopeCascade.Selector
