import Mathlib
import ScopeCascade.Proofs.Selector.Rank

/-! More scopes around a place, and longer ones, keep the matches of a selector without exclusions:
every scope of the narrow path has its place in the wide one, and a match moves there atom by atom.
No atom gets shallower or shorter on the way, so the specificity does not fall. -/
namespace ScopeCascade

/-- The second path has the scopes of the first in order, each with any further segments, and any
other scopes before, between and behind them. -/
def ScopePath.Widens (narrow wide : ScopePath) : Prop :=
  List.SublistForall₂ (fun scope longer => scope.segments <+: longer.segments)
    narrow.scopes wide.scopes

theorem exists_strictMono_of_sublistForall₂ {α β : Type} {related : α → β → Prop} {narrow : List α}
    {wide : List β} (embedded : List.SublistForall₂ related narrow wide) :
    ∃ place : Nat → Nat, StrictMono place ∧ ∀ index item, narrow[index]? = some item →
      ∃ other, wide[place index]? = some other ∧ related item other := by
  induction embedded with
  | nil => exact ⟨id, strictMono_id, by simp⟩
  | @cons item other _ _ first _ ih =>
    obtain ⟨place, increasing, places⟩ := ih
    refine ⟨fun index => index.casesOn 0 fun before => place before + 1, ?_, ?_⟩
    · intro index later less
      cases later with
      | zero => contradiction
      | succ later =>
        cases index with
        | zero => exact Nat.succ_pos _
        | succ index => exact Nat.succ_lt_succ (increasing (Nat.lt_of_succ_lt_succ less))
    · intro index found located
      cases index with
      | zero =>
        cases located
        exact ⟨other, rfl, first⟩
      | succ index => exact places index found located
  | cons_right _ ih =>
    obtain ⟨place, increasing, places⟩ := ih
    exact ⟨fun index => place index + 1, fun _ _ less => Nat.succ_lt_succ (increasing less), places⟩

namespace Selector

inductive Expr.ExclusionFree : Expr → Prop
  | atom (scope : Scope) : ExclusionFree (.atom scope)
  | sequence {terms : List Expr} :
      (∀ term ∈ terms, ExclusionFree term) → ExclusionFree (.sequence terms)
  | union {alternatives : List Expr} :
      (∀ alternative ∈ alternatives, ExclusionFree alternative) →
      ExclusionFree (.union alternatives)
  | group {alternatives : List Expr} :
      (∀ alternative ∈ alternatives, ExclusionFree alternative) →
      ExclusionFree (.group alternatives)

def AtomMatch.move (place : Nat → Nat) (atom : AtomMatch) : AtomMatch :=
  { atom with index := place atom.index }

theorem AtomMatch.compare_move_isLE {place : Nat → Nat} (deepens : ∀ index, index ≤ place index)
    (atoms : List AtomMatch) : (compare atoms (atoms.map (move place))).isLE := by
  induction atoms with
  | nil => rfl
  | cons atom rest ih => exact AtomMatch.compare_cons_isLE (deepens atom.index) ih

namespace Reading

/-- Matches of the one become matches of the other, in every window that the places of a window
fit into. -/
def MovesTo (place : Nat → Nat) (narrow wide : Reading) : Prop :=
  ∀ limit start atoms wider, narrow limit start atoms → (∀ index < limit, place index < wider) →
    wide wider (place start) (atoms.map (AtomMatch.move place))

variable {place : Nat → Nat}

theorem atom_movesTo {path longer : List Scope}
    (places : ∀ index scope, path[index]? = some scope →
      ∃ other, longer[place index]? = some other ∧ scope.segments <+: other.segments)
    (scope : Scope) : MovesTo place (atom path scope) (atom longer scope) := by
  rintro limit start atoms wider ⟨below, ⟨found, located, begins⟩, rfl⟩ fits
  obtain ⟨other, moved, grown⟩ := places start found located
  exact ⟨fits start below, ⟨other, moved, begins.trans grown⟩, rfl⟩

variable {ι : Type} {items : List ι} {narrow wide : ι → Reading}

theorem any_movesTo (each : ∀ item ∈ items, MovesTo place (narrow item) (wide item)) :
    MovesTo place (any (items.map narrow)) (any (items.map wide)) := by
  rintro limit start atoms wider ⟨reading, listed, matched⟩ fits
  obtain ⟨item, member, rfl⟩ := List.mem_map.mp listed
  exact ⟨wide item, List.mem_map_of_mem member, each item member _ _ _ _ matched fits⟩

/-- The window of the outer terms ends where the innermost one starts, so its places end at the
place of that start. -/
theorem chain_movesTo (increasing : StrictMono place)
    (each : ∀ item ∈ items, MovesTo place (narrow item) (wide item)) :
    MovesTo place (chain (items.map narrow)) (chain (items.map wide)) := by
  induction items with
  | nil => exact fun _ _ _ _ matched _ => False.elim matched
  | cons innermost others ih =>
    obtain ⟨first, later⟩ := List.forall_mem_cons.mp each
    cases others with
    | nil => exact first
    | cons next rest =>
      rintro limit start atoms wider ⟨middle, deeper, outer, inner, outside, rfl⟩ fits
      refine ⟨place middle, deeper.map (AtomMatch.move place), outer.map (AtomMatch.move place),
        first limit middle deeper wider inner fits, ?_, List.map_append⟩
      exact ih later middle start outer (place middle) outside fun index less => increasing less

end Reading

theorem Expr.ExclusionFree.matches_move {expr : Expr} (free : expr.ExclusionFree)
    {path longer : List Scope} {place : Nat → Nat} (increasing : StrictMono place)
    (places : ∀ index scope, path[index]? = some scope →
      ∃ other, longer[place index]? = some other ∧ scope.segments <+: other.segments) :
    Reading.MovesTo place (expr.Matches path) (expr.Matches longer) := by
  induction free with
  | atom scope => exact Reading.atom_movesTo places scope
  | @sequence terms _ ih =>
    rw [Expr.Matches, Expr.Matches, Expr.readings_eq_map, Expr.readings_eq_map, ← List.map_reverse,
      ← List.map_reverse]
    exact Reading.chain_movesTo increasing fun term member => ih term (List.mem_reverse.mp member)
  | union _ ih | group _ ih =>
    rw [Expr.Matches, Expr.Matches, Expr.readings_eq_map, Expr.readings_eq_map]
    exact Reading.any_movesTo ih

/-- A specificity that is reached in the narrow path, or a greater one, is reached in the wide
path. -/
theorem Reaches.widen {selector : Selector} (free : selector.expr.ExclusionFree)
    {narrow wide : ScopePath} (widens : narrow.Widens wide) {specificity : Specificity}
    (reaches : selector.Reaches narrow specificity) :
    ∃ greater, selector.Reaches wide greater ∧ (compare specificity greater).isLE := by
  obtain ⟨place, increasing, places⟩ := exists_strictMono_of_sublistForall₂ widens
  obtain ⟨start, atoms, matched, rfl⟩ := reaches
  have fits : ∀ index < narrow.depth, place index < wide.depth := by
    intro index within
    obtain ⟨other, located, _⟩ := places index _ (List.getElem?_eq_getElem within)
    exact (List.getElem?_eq_some_iff.mp located).1
  have moved := free.matches_move increasing places _ _ _ _ matched fits
  refine ⟨_, ⟨_, _, moved, rfl⟩, ?_⟩
  rw [Specificity.compare_ofAtoms]
  exact AtomMatch.compare_move_isLE (fun _ => increasing.le_apply) atoms

/-- A selector without exclusions that matches a path matches every wider one, and at least as
specifically. -/
theorem match?_of_widens {selector : Selector} (free : selector.expr.ExclusionFree)
    {narrow wide : ScopePath} (widens : narrow.Widens wide) {result : MatchResult}
    (matched : selector.match? narrow = some result) :
    ∃ wider, selector.match? wide = some wider ∧
      (compare (Specificity.ofMatch result) (Specificity.ofMatch wider)).isLE := by
  have ranked : selector.rank? narrow = some (.ofMatch result) := by rw [rank?, matched]; rfl
  obtain ⟨reaches, _⟩ := (selector.rank?_eq_some_iff narrow _).mp ranked
  obtain ⟨greater, reached, above⟩ := reaches.widen free widens
  obtain ⟨greatest, rankedWide, greatestAbove⟩ := reached.exists_rank?
  obtain ⟨wider, found, rfl⟩ := Option.map_eq_some_iff.mp rankedWide
  exact ⟨wider, found, Std.TransCmp.isLE_trans above greatestAbove⟩

theorem match?_of_widens_in_template :
    let source : Scope := ⟨[⟨"source".toList, by decide⟩], by decide⟩
    let string : Scope := ⟨[⟨"string".toList, by decide⟩], by decide⟩
    let quoted : Scope := ⟨[⟨"string".toList, by decide⟩, ⟨"quoted".toList, by decide⟩], by decide⟩
    let text : Scope := ⟨[⟨"text".toList, by decide⟩], by decide⟩
    let selector : Selector := ⟨"source string".toList, .sequence [.atom source, .atom string]⟩
    let narrow : ScopePath := ⟨[source, string], by decide⟩
    let wide : ScopePath := ⟨[text, source, text, quoted, text], by decide⟩
    let result : MatchResult := ⟨0, 2, [⟨1, 1⟩, ⟨0, 1⟩]⟩
    Selector.parse "source string" = .ok selector ∧ selector.expr.ExclusionFree ∧
      narrow.Widens wide ∧ selector.match? narrow = some result ∧
      ∃ wider, selector.match? wide = some wider ∧
        (compare (Specificity.ofMatch result) (Specificity.ofMatch wider)).isLE := by
  intro source string quoted text selector narrow wide result
  have free : selector.expr.ExclusionFree := by
    refine .sequence fun term member => ?_
    rcases List.mem_pair.mp member with rfl | rfl <;> exact .atom _
  have widens : narrow.Widens wide :=
    .cons_right (.cons (List.prefix_refl _) (.cons_right (.cons (List.prefix_append _ _) .nil)))
  have matched : selector.match? narrow = some result := by cbv
  exact ⟨by cbv, free, widens, matched, match?_of_widens free widens matched⟩

end Selector

end ScopeCascade
