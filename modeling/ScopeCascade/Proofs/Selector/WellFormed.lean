import Mathlib
import ScopeCascade.Proofs.Selector.Rank

/-! What every match that a selector reports is made of. Each entry comes from an atom of the
selector that is not excluded, and from a scope that begins with this atom; the entries lead from
the innermost scope of the span to the outermost one. -/
namespace ScopeCascade.Selector

/-- The expression has the atom outside the right sides of its exclusions. -/
inductive Expr.Keeps : Expr → Scope → Prop
  | atom {scope : Scope} : Keeps (.atom scope) scope
  | sequence {terms : List Expr} {term : Expr} {scope : Scope} :
      term ∈ terms → Keeps term scope → Keeps (.sequence terms) scope
  | union {alternatives : List Expr} {alternative : Expr} {scope : Scope} :
      alternative ∈ alternatives → Keeps alternative scope → Keeps (.union alternatives) scope
  | exclusion {kept excluded : Expr} {scope : Scope} :
      Keeps kept scope → Keeps (.exclusion kept excluded) scope
  | group {alternatives : List Expr} {alternative : Expr} {scope : Scope} :
      alternative ∈ alternatives → Keeps alternative scope → Keeps (.group alternatives) scope

/-- The entry stands for one of these atoms, and the scope at its place begins with that atom. -/
def AtomMatch.Stands (kept : Scope → Prop) (path : List Scope) (entry : AtomMatch) : Prop :=
  ∃ scope found, kept scope ∧ scope.length = entry.segments ∧
    path[entry.index]? = some found ∧ scope.segments <+: found.segments

theorem AtomMatch.Stands.imp {kept others : Scope → Prop} {path : List Scope} {entry : AtomMatch}
    (stands : entry.Stands kept path) (included : ∀ scope, kept scope → others scope) :
    entry.Stands others path := by
  obtain ⟨scope, found, member, length, located, begins⟩ := stands
  exact ⟨scope, found, included scope member, length, located, begins⟩

namespace Reading

/-- All entries of the matches stand for some of these atoms. -/
def Draws (kept : Scope → Prop) (path : List Scope) (reading : Reading) : Prop :=
  ∀ limit start atoms, reading limit start atoms → ∀ entry ∈ atoms, entry.Stands kept path

variable {kept : Scope → Prop} {path : List Scope}

theorem atom_draws {scope : Scope} (own : kept scope) : Draws kept path (atom path scope) := by
  rintro limit start atoms ⟨_, ⟨found, located, begins⟩, rfl⟩
  exact List.forall_mem_singleton.mpr ⟨scope, found, own, rfl, located, begins⟩

theorem any_draws {readings : List Reading} (each : ∀ reading ∈ readings, Draws kept path reading) :
    Draws kept path (any readings) := by
  rintro limit start atoms ⟨reading, member, matched⟩
  exact each reading member limit start atoms matched

theorem chain_draws {readings : List Reading}
    (each : ∀ reading ∈ readings, Draws kept path reading) :
    Draws kept path (chain readings) := by
  induction readings with
  | nil => exact fun _ _ _ matched => False.elim matched
  | cons innermost others ih =>
    obtain ⟨first, later⟩ := List.forall_mem_cons.mp each
    cases others with
    | nil => exact first
    | cons next rest =>
      rintro limit start atoms ⟨middle, deeper, outer, inner, outside, rfl⟩
      exact List.forall_mem_append.mpr
        ⟨first limit middle deeper inner, ih later middle start outer outside⟩

theorem except_draws {included excluded : Reading} (draws : Draws kept path included) :
    Draws kept path (except included excluded) := fun limit start atoms matched =>
  draws limit start atoms matched.1

theorem Draws.imp {others : Scope → Prop} {reading : Reading} (draws : Draws kept path reading)
    (included : ∀ scope, kept scope → others scope) : Draws others path reading :=
  fun limit start atoms matched entry member =>
    (draws limit start atoms matched entry member).imp included

end Reading

mutual

/-- An excluded expression only decides whether there is a match: no entry comes from it. -/
theorem Expr.matches_draw (path : List Scope) :
    (expr : Expr) → (Expr.Matches path expr).Draws expr.Keeps path
  | .atom scope => Reading.atom_draws .atom
  | .sequence terms => by
    rw [Expr.Matches]
    refine Reading.chain_draws fun reading member => ?_
    obtain ⟨term, listed, draws⟩ :=
      Expr.readings_draw path terms reading (List.mem_reverse.mp member)
    exact draws.imp fun _ => .sequence listed
  | .union alternatives => by
    rw [Expr.Matches]
    refine Reading.any_draws fun reading member => ?_
    obtain ⟨alternative, listed, draws⟩ := Expr.readings_draw path alternatives reading member
    exact draws.imp fun _ => .union listed
  | .exclusion kept excluded => by
    rw [Expr.Matches]
    exact Reading.except_draws ((Expr.matches_draw path kept).imp fun _ => .exclusion)
  | .group alternatives => by
    rw [Expr.Matches]
    refine Reading.any_draws fun reading member => ?_
    obtain ⟨alternative, listed, draws⟩ := Expr.readings_draw path alternatives reading member
    exact draws.imp fun _ => .group listed

theorem Expr.readings_draw (path : List Scope) :
    (exprs : List Expr) → ∀ reading ∈ Expr.readings path exprs,
      ∃ expr ∈ exprs, reading.Draws expr.Keeps path
  | [] => by
    intro reading member
    contradiction
  | expr :: rest => by
    intro reading member
    rcases List.mem_cons.mp member with rfl | member
    · exact ⟨expr, List.mem_cons_self, Expr.matches_draw path expr⟩
    · obtain ⟨other, listed, draws⟩ := Expr.readings_draw path rest reading member
      exact ⟨other, List.mem_cons_of_mem _ listed, draws⟩

end

/-- What a match of an expression in a path looks like. -/
structure MatchResult.WellFormed (expr : Expr) (path : ScopePath) (result : MatchResult) :
    Prop where
  filled : result.isEmpty = false
  decreasing : result.atoms.Pairwise fun deeper outer => outer.index < deeper.index
  start : result.atoms.getLast?.map AtomMatch.index = some result.start
  stop : result.atoms.head?.map (fun innermost => innermost.index + 1) = some result.stop
  start_lt : result.start < result.stop
  stop_le : result.stop ≤ path.depth
  /-- The length is no truncated difference. -/
  length : result.start + result.length = result.stop
  entries : ∀ entry ∈ result.atoms, entry.Stands expr.Keeps path.scopes

/-- Whatever a selector reports is well formed. -/
theorem wellFormed_of_match? {selector : Selector} {path : ScopePath} {result : MatchResult}
    (reported : selector.match? path = some result) : result.WellFormed selector.expr path := by
  obtain ⟨matched, _, stop⟩ := (selector.expr.match?_eq_some_iff path result).mp reported
  have descent := Expr.matches_descends _ _ _ _ _ matched
  obtain ⟨innermost, first, below⟩ := descent.head
  have stopAt : innermost.index + 1 = result.stop := by simpa [first] using stop
  have start_le := descent.start_le_first first
  have start_lt : result.start < result.stop := by omega
  exact
    { filled := by
        rw [MatchResult.isEmpty, List.isEmpty_eq_false_iff]
        rintro empty
        rw [empty] at first
        contradiction
      decreasing := descent.decreasing
      start := descent.last_index
      stop
      start_lt
      stop_le := by omega
      length := Nat.add_sub_cancel' (Nat.le_of_lt start_lt)
      entries := Expr.matches_draw _ _ _ _ _ matched }

theorem wellFormed_of_string_in_source :
    let source : Scope := ⟨[⟨"source".toList, by decide⟩], by decide⟩
    let ruby : Scope := ⟨[⟨"source".toList, by decide⟩, ⟨"ruby".toList, by decide⟩], by decide⟩
    let block : Scope := ⟨[⟨"block".toList, by decide⟩], by decide⟩
    let string : Scope := ⟨[⟨"string".toList, by decide⟩], by decide⟩
    let quoted : Scope := ⟨[⟨"string".toList, by decide⟩, ⟨"quoted".toList, by decide⟩], by decide⟩
    let text : Scope := ⟨[⟨"text".toList, by decide⟩], by decide⟩
    let selector : Selector := ⟨"source (text | string.quoted - text string)".toList,
      .sequence [.atom source, .group [.atom text,
        .exclusion (.atom quoted) (.sequence [.atom text, .atom string])]]⟩
    let path : ScopePath := ⟨[ruby, block, quoted], by decide⟩
    let result : MatchResult := ⟨0, 3, [⟨2, 2⟩, ⟨0, 1⟩]⟩
    Selector.parse "source (text | string.quoted - text string)" = .ok selector ∧
      selector.match? path = some result ∧ result.WellFormed selector.expr path := by
  intro source ruby block string quoted text selector path result
  have reported : selector.match? path = some result := by cbv
  exact ⟨by cbv, reported, wellFormed_of_match? reported⟩

end ScopeCascade.Selector
