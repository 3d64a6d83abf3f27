import Mathlib
import ScopeCascade.Proofs.Selector.Rank

/-! Laws by which selectors may be rewritten. A law keeps the matches of the part that it rewrites,
in every window and whatever the parts are; and the matches of an expression depend on its parts
only by their matches. So a selector reports the same before and after, at every path. -/
namespace ScopeCascade.Selector

namespace Expr

/-- The forms that match as any of their alternatives. -/
inductive IsChoice : (List Expr → Expr) → Prop
  | union : IsChoice .union
  | group : IsChoice .group

/-- The laws, between whole expressions. -/
inductive Law : Expr → Expr → Prop
  | permute {choice : List Expr → Expr} {alternatives others : List Expr} :
      IsChoice choice → alternatives.Perm others → Law (choice alternatives) (choice others)
  | duplicate {choice : List Expr → Expr} {alternatives : List Expr} {alternative : Expr} :
      IsChoice choice → alternative ∈ alternatives →
      Law (choice alternatives) (choice (alternative :: alternatives))
  /-- A group among alternatives gives way to its own alternatives. -/
  | dissolve {choice : List Expr → Expr} {before inner after : List Expr} :
      IsChoice choice →
      Law (choice (before ++ .group inner :: after)) (choice (before ++ inner ++ after))
  /-- Some terms of a sequence in parentheses stand there without them. -/
  | regroup {before inner after : List Expr} : inner ≠ [] →
      Law (.sequence (before ++ .group [.sequence inner] :: after))
        (.sequence (before ++ inner ++ after))
  | swap {kept first second : Expr} :
      Law (.exclusion (.exclusion kept first) second) (.exclusion (.exclusion kept second) first)
  /-- To exclude one after the other is to exclude both at once. -/
  | collect {kept first second : Expr} :
      Law (.exclusion (.exclusion kept first) second) (.exclusion kept (.group [first, second]))
  | distribute {alternatives : List Expr} {excluded : Expr} :
      Law (.exclusion (.group alternatives) excluded)
        (.group (alternatives.map fun kept => .exclusion kept excluded))

/-- One law applied to one part, wherever it stands. -/
inductive Rewrites : Expr → Expr → Prop
  | whole {expr other : Expr} : Law expr other → Rewrites expr other
  | alternative {choice : List Expr → Expr} {before after : List Expr} {expr other : Expr} :
      IsChoice choice → Rewrites expr other →
      Rewrites (choice (before ++ expr :: after)) (choice (before ++ other :: after))
  | term {before after : List Expr} {expr other : Expr} : Rewrites expr other →
      Rewrites (.sequence (before ++ expr :: after)) (.sequence (before ++ other :: after))
  | kept {expr other excluded : Expr} : Rewrites expr other →
      Rewrites (.exclusion expr excluded) (.exclusion other excluded)
  | excluded {kept expr other : Expr} : Rewrites expr other →
      Rewrites (.exclusion kept expr) (.exclusion kept other)

/-- Any number of laws, each in either direction and applied to any part. -/
def Equivalent : Expr → Expr → Prop := Relation.EqvGen Rewrites

end Expr

namespace Reading

theorem any_congr {readings others : List Reading}
    (same : ∀ reading, reading ∈ readings ↔ reading ∈ others) : any readings = any others := by
  funext limit start atoms
  simp only [any, same]

theorem any_dissolve (before inner after : List Reading) :
    any (before ++ any inner :: after) = any (before ++ inner ++ after) := by
  funext limit start atoms
  simp [any, or_and_right, exists_or]

theorem any_singleton (reading : Reading) : any [reading] = reading := by
  funext limit start atoms
  simp [any]

/-- The terms of a chain may be cut in two anywhere: the outer ones match before the scope where the
inner ones start. -/
theorem chain_append {inner outer : List Reading} (innerFilled : inner ≠ [])
    (outerFilled : outer ≠ []) (limit start : Nat) (atoms : List AtomMatch) :
    chain (inner ++ outer) limit start atoms ↔
      ∃ middle deeper shallower, chain inner limit middle deeper ∧
        chain outer middle start shallower ∧ atoms = deeper ++ shallower := by
  induction inner generalizing limit atoms with
  | nil => contradiction
  | cons innermost others ih =>
    cases others with
    | nil => exact chain_cons outerFilled
    | cons next rest =>
      have filled : (next :: rest) ++ outer ≠ [] := List.cons_ne_nil _ _
      rw [List.cons_append, chain_cons filled]
      constructor
      · rintro ⟨middle, deepest, remaining, first, later, rfl⟩
        obtain ⟨lower, deeper, shallower, second, last, rfl⟩ :=
          (ih (List.cons_ne_nil _ _) middle remaining).mp later
        exact ⟨lower, deepest ++ deeper, shallower, ⟨middle, deepest, deeper, first, second, rfl⟩,
          last, (List.append_assoc _ _ _).symm⟩
      · rintro ⟨lower, deeper, shallower, ⟨middle, deepest, between, first, second, rfl⟩, last, rfl⟩
        exact ⟨middle, deepest, between ++ shallower, first,
          (ih (List.cons_ne_nil _ _) middle _).mpr ⟨lower, between, shallower, second, last, rfl⟩,
          List.append_assoc _ _ _⟩

theorem chain_regroup {inner : List Reading} (filled : inner ≠ []) (deeper outer : List Reading) :
    chain (deeper ++ chain inner :: outer) = chain (deeper ++ inner ++ outer) := by
  have regrouped : chain (chain inner :: outer) = chain (inner ++ outer) := by
    funext limit start atoms
    cases outer with
    | nil => rw [List.append_nil, chain]
    | cons next rest =>
      have several : next :: rest ≠ [] := List.cons_ne_nil _ _
      exact propext ((chain_cons several).trans (chain_append filled several ..).symm)
  rw [List.append_assoc]
  cases deeper with
  | nil => exact regrouped
  | cons first later =>
    have innerFilled : inner ++ outer ≠ [] := List.append_ne_nil_of_left_ne_nil filled _
    funext limit start atoms
    rw [chain_append (List.cons_ne_nil _ _) (List.cons_ne_nil _ _), regrouped,
      chain_append (List.cons_ne_nil _ _) innerFilled]

theorem except_swap (kept first second : Reading) :
    except (except kept first) second = except (except kept second) first := by
  funext limit start atoms
  exact propext and_right_comm

theorem except_collect (kept first second : Reading) :
    except (except kept first) second = except kept (any [first, second]) := by
  funext limit start atoms
  simp [except, any, or_and_right, exists_or, and_assoc]

theorem except_distribute (readings : List Reading) (excluded : Reading) :
    except (any readings) excluded = any (readings.map fun kept => except kept excluded) := by
  funext limit start atoms
  apply propext
  constructor
  · rintro ⟨⟨reading, listed, matched⟩, unmatched⟩
    exact ⟨except reading excluded, List.mem_map_of_mem listed, matched, unmatched⟩
  · rintro ⟨reading, listed, matched⟩
    obtain ⟨kept, member, rfl⟩ := List.mem_map.mp listed
    exact ⟨⟨kept, member, matched.1⟩, matched.2⟩

end Reading

namespace Expr

theorem IsChoice.matches_eq {choice : List Expr → Expr} (isChoice : IsChoice choice)
    (path : List Scope) (alternatives : List Expr) :
    Matches path (choice alternatives) = Reading.any (alternatives.map (Matches path)) := by
  cases isChoice with
  | union => rw [Matches, readings_eq_map]
  | group => rw [Matches, readings_eq_map]

/-- Every law keeps the matches. -/
theorem Law.matches_eq {expr other : Expr} (law : Law expr other) (path : List Scope) :
    Matches path expr = Matches path other := by
  cases law with
  | permute isChoice permuted =>
    rw [isChoice.matches_eq, isChoice.matches_eq]
    exact Reading.any_congr fun reading => (permuted.map (Matches path)).mem_iff
  | duplicate isChoice listed =>
    rw [isChoice.matches_eq, isChoice.matches_eq]
    have present := List.mem_map_of_mem (f := Matches path) listed
    refine Reading.any_congr fun reading => ?_
    rw [List.map_cons, List.mem_cons]
    exact ⟨.inr, fun member => member.elim (fun same => same ▸ present) id⟩
  | dissolve isChoice =>
    rw [isChoice.matches_eq, isChoice.matches_eq, List.map_append, List.map_cons, List.map_append,
      List.map_append, IsChoice.group.matches_eq]
    exact Reading.any_dissolve _ _ _
  | @regroup before inner after filled =>
    have readings : (inner.map (Matches path)).reverse ≠ [] := by simpa using filled
    rw [matches_sequence, matches_sequence, List.map_append, List.map_cons, List.map_append,
      List.map_append, IsChoice.group.matches_eq, List.map_singleton, Reading.any_singleton,
      matches_sequence]
    simpa using Reading.chain_regroup readings _ _
  | swap =>
    simp only [Matches]
    exact Reading.except_swap _ _ _
  | collect =>
    rw [Matches, Matches, Matches, IsChoice.group.matches_eq]
    exact Reading.except_collect _ _ _
  | @distribute alternatives excluded =>
    rw [Matches, IsChoice.group.matches_eq, IsChoice.group.matches_eq, Reading.except_distribute,
      List.map_map, List.map_map]
    rfl

/-- What a part matches is all that counts of it. -/
theorem Rewrites.matches_eq {expr other : Expr} (rewrites : Rewrites expr other)
    (path : List Scope) : Matches path expr = Matches path other := by
  induction rewrites with
  | whole law => exact law.matches_eq path
  | alternative isChoice _ ih =>
    rw [isChoice.matches_eq, isChoice.matches_eq, List.map_append, List.map_append, List.map_cons,
      List.map_cons, ih]
  | term _ ih =>
    rw [matches_sequence, matches_sequence, List.map_append, List.map_append, List.map_cons,
      List.map_cons, ih]
  | kept _ ih => rw [Matches, Matches, ih]
  | excluded _ ih => rw [Matches, Matches, ih]

theorem Equivalent.matches_eq {expr other : Expr} (equivalent : Equivalent expr other)
    (path : List Scope) : Matches path expr = Matches path other := by
  induction equivalent with
  | rel _ _ rewrites => exact rewrites.matches_eq path
  | refl _ => rfl
  | symm _ _ _ ih => exact ih.symm
  | trans _ _ _ _ _ first second => exact first.trans second

end Expr

/-- Selectors that the laws make of each other report the same matches at every path. -/
theorem match?_of_equivalent {selector other : Selector}
    (equivalent : selector.expr.Equivalent other.expr) (path : ScopePath) :
    selector.match? path = other.match? path :=
  Expr.match?_congr (equivalent.matches_eq path.scopes)

theorem match?_of_equivalent_in_template :
    let atom (letter : Char) (isLetter : isSegment [letter] = true) : Expr :=
      .atom ⟨[⟨[letter], isLetter⟩], by simp⟩
    let a := atom 'a' (by decide)
    let b := atom 'b' (by decide)
    let c := atom 'c' (by decide)
    let p := atom 'p' (by decide)
    let q := atom 'q' (by decide)
    let selector : Selector := ⟨"p (q (a - b - c)), (b | c)".toList,
      .union [.sequence [p, .group [.sequence [q, .group [.exclusion (.exclusion a b) c]]]],
        .group [b, c]]⟩
    let other : Selector := ⟨"b, c, p q (a - (b | c))".toList,
      .union [b, c, .sequence [p, q, .group [.exclusion a (.group [b, c])]]]⟩
    Selector.parse "p (q (a - b - c)), (b | c)" = .ok selector ∧
      Selector.parse "b, c, p q (a - (b | c))" = .ok other ∧
      selector.expr.Equivalent other.expr ∧
      ∀ path, selector.match? path = other.match? path := by
  intro atom a b c p q selector other
  let chain : Expr := .sequence [p, q, .group [.exclusion (.exclusion a b) c]]
  let collected : Expr := .sequence [p, q, .group [.exclusion a (.group [b, c])]]
  have regrouped : Expr.Rewrites selector.expr (.union [chain, .group [b, c]]) :=
    @Expr.Rewrites.alternative _ [] _ _ _ .union (.whole (@Expr.Law.regroup [p] _ [] (by simp)))
  have excludes : Expr.Rewrites chain collected :=
    @Expr.Rewrites.term [p, q] [] _ _
      (@Expr.Rewrites.alternative _ [] [] _ _ .group (.whole .collect))
  have excludesInside :
      Expr.Rewrites (.union [chain, .group [b, c]]) (.union [collected, .group [b, c]]) :=
    @Expr.Rewrites.alternative _ [] _ _ _ .union excludes
  have dissolved : Expr.Rewrites (.union [collected, .group [b, c]]) (.union [collected, b, c]) :=
    .whole (@Expr.Law.dissolve _ [collected] [b, c] [] .union)
  have permuted : Expr.Rewrites (.union [collected, b, c]) other.expr :=
    .whole (.permute .union (@List.perm_append_comm _ [collected] [b, c]))
  have equivalent : selector.expr.Equivalent other.expr :=
    .trans _ _ _ (.rel _ _ regrouped) (.trans _ _ _ (.rel _ _ excludesInside)
      (.trans _ _ _ (.rel _ _ dissolved) (.rel _ _ permuted)))
  exact ⟨by cbv, by cbv, equivalent, match?_of_equivalent equivalent⟩

end ScopeCascade.Selector
