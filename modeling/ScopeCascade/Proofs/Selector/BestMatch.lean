import ScopeCascade.Proofs.Selector.Matches
import ScopeCascade.Proofs.Selector.SequenceMemory
import ScopeCascade.Specificity

/-! The search keeps one candidate for each start, and that is enough: inside every window its
candidates are matches, and no match of the window beats the candidate of its own start. So the
match that a selector reports is the greatest of all its matches. -/
namespace ScopeCascade.Selector

namespace Candidate

/-- The one candidate has the start of the other and is at least as great. -/
def Covers (held new : Candidate) : Prop :=
  held.start = new.start ∧ (compare new.atoms held.atoms).isLE

theorem Covers.refl (candidate : Candidate) : candidate.Covers candidate :=
  ⟨rfl, Std.ReflCmp.isLE_rfl⟩

theorem Covers.trans {a b c : Candidate} (first : a.Covers b) (second : b.Covers c) :
    a.Covers c :=
  ⟨first.1.trans second.1, Std.TransCmp.isLE_trans second.2 first.2⟩

theorem mem_insertBest {new candidate : Candidate} {kept : List Candidate}
    (member : candidate ∈ insertBest new kept) : candidate = new ∨ candidate ∈ kept := by
  induction kept with
  | nil => exact .inl (List.mem_singleton.mp member)
  | cons old rest ih =>
    rw [insertBest] at member
    split at member
    · rcases List.mem_cons.mp member with rfl | later
      · split
        · exact .inl rfl
        · exact .inr List.mem_cons_self
      · exact .inr (List.mem_cons_of_mem _ later)
    · rcases List.mem_cons.mp member with rfl | later
      · exact .inr List.mem_cons_self
      · exact (ih later).imp_right (List.mem_cons_of_mem _)

theorem insertBest_covers_new (new : Candidate) (kept : List Candidate) :
    ∃ held ∈ insertBest new kept, held.Covers new := by
  induction kept with
  | nil => exact ⟨new, List.mem_cons_self, .refl new⟩
  | cons old rest ih =>
    rw [insertBest]
    split
    · rename_i same
      refine ⟨_, List.mem_cons_self, ?_⟩
      split
      · exact .refl new
      · rename_i notGreater
        exact ⟨same, Ordering.isLE_iff_ne_gt.mpr notGreater⟩
    · obtain ⟨held, member, covers⟩ := ih
      exact ⟨held, List.mem_cons_of_mem _ member, covers⟩

theorem insertBest_covers_old (new : Candidate) {old : Candidate} {kept : List Candidate}
    (member : old ∈ kept) : ∃ held ∈ insertBest new kept, held.Covers old := by
  induction kept with
  | nil => contradiction
  | cons first rest ih =>
    rw [insertBest]
    split
    · rename_i same
      rcases List.mem_cons.mp member with rfl | later
      · refine ⟨_, List.mem_cons_self, ?_⟩
        split
        · rename_i greater
          refine ⟨same.symm, ?_⟩
          rw [Std.OrientedCmp.lt_of_gt greater]
          rfl
        · exact .refl old
      · exact ⟨old, List.mem_cons_of_mem _ later, .refl old⟩
    · rcases List.mem_cons.mp member with rfl | later
      · exact ⟨old, List.mem_cons_self, .refl old⟩
      · obtain ⟨held, found, covers⟩ := ih later
        exact ⟨held, List.mem_cons_of_mem _ found, covers⟩

/-- What is kept of candidates on top of those that are kept already. -/
def bestOver (kept candidates : List Candidate) : List Candidate :=
  candidates.foldl (fun kept new => insertBest new kept) kept

theorem mem_bestOver {kept candidates : List Candidate} {candidate : Candidate}
    (member : candidate ∈ bestOver kept candidates) :
    candidate ∈ kept ∨ candidate ∈ candidates := by
  induction candidates generalizing kept with
  | nil => exact .inl member
  | cons new rest ih =>
    rcases ih member with early | late
    · rcases mem_insertBest early with rfl | old
      · exact .inr List.mem_cons_self
      · exact .inl old
    · exact .inr (List.mem_cons_of_mem _ late)

theorem bestOver_covers {kept candidates : List Candidate} {candidate : Candidate}
    (member : candidate ∈ kept ∨ candidate ∈ candidates) :
    ∃ held ∈ bestOver kept candidates, held.Covers candidate := by
  induction candidates generalizing kept candidate with
  | nil => exact ⟨candidate, member.resolve_right List.not_mem_nil, .refl candidate⟩
  | cons new rest ih =>
    -- A candidate that is replaced on the way is covered by the one that replaces it.
    have through {middle : Candidate} (kept : middle ∈ insertBest new kept)
        (covers : middle.Covers candidate) :
        ∃ held ∈ bestOver (insertBest new ‹_›) rest, held.Covers candidate := by
      obtain ⟨held, found, above⟩ := ih (.inl kept)
      exact ⟨held, found, above.trans covers⟩
    rcases member with old | added
    · obtain ⟨middle, found, covers⟩ := insertBest_covers_old new old
      exact through found covers
    · rcases List.mem_cons.mp added with rfl | later
      · obtain ⟨middle, found, covers⟩ := insertBest_covers_new candidate kept
        exact through found covers
      · exact ih (.inr later)

theorem mem_of_mem_best {candidates : List Candidate} {candidate : Candidate}
    (member : candidate ∈ best candidates) : candidate ∈ candidates :=
  (mem_bestOver member).resolve_left List.not_mem_nil

theorem best_covers {candidates : List Candidate} {candidate : Candidate}
    (member : candidate ∈ candidates) : ∃ held ∈ best candidates, held.Covers candidate :=
  bestOver_covers (.inr member)

/-- Of two candidates the search for the greatest goes on with one that is not below the other. -/
theorem greatest?_step (first next : Candidate) (rest : List Candidate) :
    ∃ chosen, (chosen = first ∨ chosen = next) ∧
      greatest? (first :: next :: rest) = greatest? (chosen :: rest) ∧
      (compare first.atoms chosen.atoms).isLE ∧ (compare next.atoms chosen.atoms).isLE := by
  cases order : compare next.atoms first.atoms with
  | lt => exact ⟨first, .inl rfl, by simp [greatest?, order], Std.ReflCmp.isLE_rfl, by simp [order]⟩
  | eq =>
    have same := Std.LawfulEqOrd.eq_of_compare order
    exact ⟨next, .inr rfl, by simp [greatest?, order], by simp [same], Std.ReflCmp.isLE_rfl⟩
  | gt =>
    have less := Std.OrientedCmp.lt_of_gt order
    exact ⟨next, .inr rfl, by simp [greatest?, order], by simp [less], Std.ReflCmp.isLE_rfl⟩

/-- The greatest candidate is one of them, and none has greater atoms. -/
theorem greatest?_cons (first : Candidate) (rest : List Candidate) :
    ∃ greatest ∈ first :: rest, greatest? (first :: rest) = some greatest ∧
      ∀ candidate ∈ first :: rest, (compare candidate.atoms greatest.atoms).isLE := by
  induction rest generalizing first with
  | nil =>
    refine ⟨first, List.mem_cons_self, rfl, fun candidate member => ?_⟩
    rw [List.mem_singleton.mp member]
    exact Std.ReflCmp.isLE_rfl
  | cons next rest ih =>
    obtain ⟨chosen, origin, step, firstLE, nextLE⟩ := greatest?_step first next rest
    obtain ⟨greatest, member, found, above⟩ := ih chosen
    have chosenLE := above chosen List.mem_cons_self
    refine ⟨greatest, ?_, step.trans found, ?_⟩
    · rcases List.mem_cons.mp member with rfl | later
      · rcases origin with rfl | rfl <;> simp
      · simp [later]
    · intro candidate listed
      rcases List.mem_cons.mp listed with rfl | listed
      · exact Std.TransCmp.isLE_trans firstLE chosenLE
      rcases List.mem_cons.mp listed with rfl | later
      · exact Std.TransCmp.isLE_trans nextLE chosenLE
      · exact above candidate (List.mem_cons_of_mem _ later)

end Candidate

/-- The candidates of a window are matches there, and every match is covered by the candidate of
its start. -/
structure Realizes (matcher : TermMatcher) (reading : Reading) : Prop where
  sound : ∀ limit, ∀ candidate ∈ matcher limit, reading limit candidate.start candidate.atoms
  best : ∀ limit start atoms, reading limit start atoms →
    ∃ candidate ∈ matcher limit, candidate.Covers ⟨start, atoms⟩

namespace Realizes

theorem isEmpty_iff {matcher : TermMatcher} {reading : Reading}
    (realizes : Realizes matcher reading) (limit : Nat) :
    (matcher limit).isEmpty = true ↔ ¬ ∃ start atoms, reading limit start atoms := by
  rw [List.isEmpty_iff]
  constructor
  · rintro empty ⟨start, atoms, matched⟩
    obtain ⟨candidate, member, _⟩ := realizes.best limit start atoms matched
    rw [empty] at member
    contradiction
  · intro unmatched
    rw [List.eq_nil_iff_forall_not_mem]
    intro candidate member
    exact unmatched ⟨_, _, realizes.sound limit candidate member⟩

theorem atom (path : List Scope) (scope : Scope) :
    Realizes (Expr.atomCandidates path scope) (Reading.atom path scope) where
  sound := by
    intro limit candidate member
    obtain ⟨index, listed, rfl⟩ := List.mem_map.mp member
    obtain ⟨below, found⟩ := List.mem_filter.mp listed
    obtain ⟨other, located, begins⟩ := (Option.any_eq_true _ _).mp found
    exact ⟨by simpa using below, ⟨other, located, List.isPrefixOf_iff_prefix.mp begins⟩, rfl⟩
  best := by
    rintro limit start atoms ⟨below, ⟨found, located, begins⟩, rfl⟩
    refine ⟨⟨start, [⟨start, scope.length⟩]⟩, List.mem_map.mpr ⟨start, ?_, rfl⟩, .refl _⟩
    refine List.mem_filter.mpr ⟨by simpa using below, ?_⟩
    simpa [located, Scope.isPrefixOf] using begins

theorem any {ι : Type} {items : List ι} {matcher : ι → TermMatcher} {reading : ι → Reading}
    (each : ∀ item ∈ items, Realizes (matcher item) (reading item)) :
    Realizes (fun limit => Candidate.best ((items.map matcher).flatMap (· limit)))
      (Reading.any (items.map reading)) where
  sound := by
    intro limit candidate member
    obtain ⟨chosen, listed, found⟩ := List.mem_flatMap.mp (Candidate.mem_of_mem_best member)
    obtain ⟨item, present, rfl⟩ := List.mem_map.mp listed
    exact ⟨reading item, List.mem_map_of_mem present,
      (each item present).sound limit candidate found⟩
  best := by
    rintro limit start atoms ⟨chosen, listed, matched⟩
    obtain ⟨item, present, rfl⟩ := List.mem_map.mp listed
    obtain ⟨middle, found, covers⟩ := (each item present).best limit start atoms matched
    have offered : middle ∈ (items.map matcher).flatMap (· limit) :=
      List.mem_flatMap.mpr ⟨matcher item, List.mem_map_of_mem present, found⟩
    obtain ⟨held, member, above⟩ := Candidate.best_covers offered
    exact ⟨held, member, above.trans covers⟩

theorem except {kept excluded : TermMatcher} {keptReading excludedReading : Reading}
    (keeps : Realizes kept keptReading) (excludes : Realizes excluded excludedReading) :
    Realizes (fun limit => if (excluded limit).isEmpty then kept limit else [])
      (Reading.except keptReading excludedReading) where
  sound := by
    intro limit candidate member
    split at member
    · rename_i empty
      exact ⟨keeps.sound limit candidate member, (excludes.isEmpty_iff limit).mp empty⟩
    · contradiction
  best := by
    rintro limit start atoms ⟨matched, unmatched⟩
    rw [if_pos ((excludes.isEmpty_iff limit).mpr unmatched)]
    exact keeps.best limit start atoms matched

/-- A candidate that was discarded for a term is never part of a better chain: the atoms of the
one that was kept instead differ from its own before the outer terms come in. -/
theorem extend {innermost others : TermMatcher} {reading : Reading} {readings : List Reading}
    (several : readings ≠ []) (descends : reading.Descends) (inner : Realizes innermost reading)
    (outside : Realizes others (Reading.chain readings)) :
    Realizes (fun limit => Candidate.best ((innermost limit).flatMap fun candidate =>
        (others candidate.start).map candidate.extend))
      (Reading.chain (reading :: readings)) where
  sound := by
    intro limit candidate member
    obtain ⟨last, present, found⟩ := List.mem_flatMap.mp (Candidate.mem_of_mem_best member)
    obtain ⟨earlier, listed, rfl⟩ := List.mem_map.mp found
    rw [Reading.chain_cons several]
    exact ⟨last.start, last.atoms, earlier.atoms, inner.sound limit last present,
      outside.sound last.start earlier listed, rfl⟩
  best := by
    intro limit start atoms matched
    obtain ⟨middle, deeper, outer, matchedInner, matchedOutside, rfl⟩ :=
      (Reading.chain_cons several).mp matched
    obtain ⟨last, present, sameMiddle, deeperLE⟩ := inner.best limit middle deeper matchedInner
    cases sameMiddle
    obtain ⟨earlier, listed, sameStart, outerLE⟩ :=
      outside.best last.start start outer matchedOutside
    have extended : last.extend earlier ∈ (innermost limit).flatMap fun candidate =>
        (others candidate.start).map candidate.extend :=
      List.mem_flatMap.mpr ⟨last, present, List.mem_map_of_mem listed⟩
    obtain ⟨held, member, above⟩ := Candidate.best_covers extended
    have below : (compare (deeper ++ outer) (last.atoms ++ earlier.atoms)).isLE :=
      (descends limit last.start deeper matchedInner).append_isLE
        (descends limit last.start last.atoms (inner.sound limit last present)) deeperLE outerLE
    exact ⟨held, member, above.trans ⟨sameStart, below⟩⟩

theorem search {ι : Type} {items : List ι} {matcher : ι → TermMatcher} {reading : ι → Reading}
    (each : ∀ item ∈ items, Realizes (matcher item) (reading item))
    (descends : ∀ item ∈ items, (reading item).Descends) {n : Nat} (within : n ≤ items.length) :
    Realizes (SequenceMatcher.search (items.map matcher) n)
      (Reading.chain ((items.take n).map reading).reverse) := by
  induction n with
  | zero =>
    exact ⟨fun _ _ member => absurd member List.not_mem_nil, fun _ _ _ matched => matched.elim⟩
  | succ n ih =>
    have inside : n < items.length := within
    have present := List.getElem_mem inside
    have readings : ((items.take (n + 1)).map reading).reverse =
        reading items[n] :: ((items.take n).map reading).reverse := by
      rw [List.take_succ_eq_append_getElem inside, List.map_append, List.reverse_append]
      rfl
    have step : SequenceMatcher.search (items.map matcher) (n + 1) = fun limit =>
        if n = 0 then matcher items[n] limit
        else Candidate.best ((matcher items[n] limit).flatMap fun candidate =>
          (SequenceMatcher.search (items.map matcher) n candidate.start).map candidate.extend) := by
      funext limit
      rw [SequenceMatcher.search, List.getElem?_map, List.getElem?_eq_getElem inside]
      rfl
    rw [readings, step]
    by_cases single : n = 0
    · subst single
      exact each _ present
    · simp only [single, if_false]
      have several : ((items.take n).map reading).reverse ≠ [] := by
        simp only [ne_eq, List.reverse_eq_nil_iff, List.map_eq_nil_iff, List.take_eq_nil_iff]
        rintro (none | empty)
        · exact single none
        · simp [empty] at inside
      exact (each _ present).extend several (descends _ present) (ih (Nat.le_of_lt inside))

end Realizes

theorem Expr.candidatesOfAll_eq_map (path : List Scope) (exprs : List Expr) :
    Expr.candidatesOfAll path exprs = exprs.map (Expr.candidates path) := by
  induction exprs with
  | nil => rfl
  | cons expr rest ih => rw [Expr.candidatesOfAll, ih, List.map_cons]

theorem Expr.candidates_sequence (path : List Scope) (terms : List Expr) :
    Expr.candidates path (.sequence terms) =
      SequenceMatcher.search (terms.map (Expr.candidates path)) terms.length := by
  funext limit
  rw [Expr.candidates, Expr.candidatesOfAll_eq_map]
  exact (SequenceMatcher.candidates_eq_search _ .empty _ _).1

mutual

theorem Expr.candidates_realize (path : List Scope) :
    (expr : Expr) → Realizes (Expr.candidates path expr) (Expr.Matches path expr)
  | .atom scope => .atom path scope
  | .sequence terms => by
    have each := Expr.candidates_realize_all path terms
    rw [Expr.candidates_sequence, Expr.Matches, Expr.readings_eq_map]
    have whole := Realizes.search each (fun term _ => Expr.matches_descends path term)
      (Nat.le_refl terms.length)
    rwa [List.take_length] at whole
  | .union alternatives => by
    rw [Expr.candidates, Expr.Matches, Expr.candidatesOfAll_eq_map, Expr.readings_eq_map]
    exact .any (Expr.candidates_realize_all path alternatives)
  | .exclusion kept excluded => by
    rw [Expr.candidates, Expr.Matches]
    exact .except (Expr.candidates_realize path kept) (Expr.candidates_realize path excluded)
  | .group alternatives => by
    rw [Expr.candidates, Expr.Matches, Expr.candidatesOfAll_eq_map, Expr.readings_eq_map]
    exact .any (Expr.candidates_realize_all path alternatives)

theorem Expr.candidates_realize_all (path : List Scope) :
    (exprs : List Expr) → ∀ expr ∈ exprs, Realizes (Expr.candidates path expr)
      (Expr.Matches path expr)
  | [] => by
    intro expr member
    contradiction
  | first :: rest => by
    intro expr member
    rcases List.mem_cons.mp member with same | member
    · exact same ▸ Expr.candidates_realize path first
    · exact Expr.candidates_realize_all path rest expr member

end

/-- The atoms of matches are in the order of the specificities that they give. -/
theorem compare_ofMatch (a b : MatchResult) :
    compare (Specificity.ofMatch a) (Specificity.ofMatch b) = compare a.atoms b.atoms := by
  have weights (as bs : List AtomMatch) :
      compare (as.map fun atom => (⟨atom.index + 1, atom.segments⟩ : Weight))
        (bs.map fun atom => (⟨atom.index + 1, atom.segments⟩ : Weight)) = compare as bs := by
    induction as generalizing bs with
    | nil => cases bs <;> rfl
    | cons a as ih =>
      cases bs with
      | nil => rfl
      | cons b bs =>
        have depth : compare (a.index + 1) (b.index + 1) = compare a.index b.index := by
          simp [Nat.compare_eq_ite_lt]
        have first : compare (⟨a.index + 1, a.segments⟩ : Weight) ⟨b.index + 1, b.segments⟩ =
            compare a b := by
          rw [AtomMatch.compare_eq, ← depth]
          rfl
        rw [List.map_cons, List.map_cons, List.compare_cons_cons, List.compare_cons_cons, first,
          ih]
  exact weights a.atoms b.atoms

/-- A selector matches a path unless there is no match at all, and then reports a greatest one:
its atoms are at least those of every other match, and so is its specificity. -/
theorem match?_greatest (selector : Selector) (path : ScopePath) :
    (selector.match? path = none ↔
      ¬ ∃ start atoms, selector.expr.Matches path.scopes path.depth start atoms) ∧
    ∀ result, selector.match? path = some result →
      selector.expr.Matches path.scopes path.depth result.start result.atoms ∧
      (∀ start atoms, selector.expr.Matches path.scopes path.depth start atoms →
        (compare atoms result.atoms).isLE) ∧
      (∀ other : MatchResult, selector.expr.Matches path.scopes path.depth other.start other.atoms →
        (compare (Specificity.ofMatch other) (Specificity.ofMatch result)).isLE) ∧
      ∃ innermost, result.atoms.head? = some innermost ∧ result.stop = innermost.index + 1 := by
  have realizes := Expr.candidates_realize path.scopes selector.expr
  have whole : selector.match? path =
      (Candidate.greatest? (selector.expr.candidates path.scopes path.depth)).map
        .ofCandidate := rfl
  cases listed : selector.expr.candidates path.scopes path.depth with
  | nil =>
    rw [whole, listed]
    refine ⟨⟨fun _ => ?_, fun _ => rfl⟩, fun _ found => by contradiction⟩
    exact (realizes.isEmpty_iff path.depth).mp (by rw [listed]; rfl)
  | cons first rest =>
    obtain ⟨greatest, member, found, above⟩ := Candidate.greatest?_cons first rest
    rw [whole, listed, found]
    rw [← listed] at member above
    have matched := realizes.sound path.depth greatest member
    have greatestAtoms : ∀ start atoms, selector.expr.Matches path.scopes path.depth start atoms →
        (compare atoms greatest.atoms).isLE := by
      intro start atoms other
      obtain ⟨candidate, present, _, below⟩ := realizes.best path.depth start atoms other
      exact Std.TransCmp.isLE_trans below (above candidate present)
    refine ⟨⟨fun none => by contradiction, fun none => absurd ⟨_, _, matched⟩ none⟩, ?_⟩
    rintro result same
    cases same
    refine ⟨matched, greatestAtoms, ?_, ?_⟩
    · intro other otherMatched
      rw [compare_ofMatch]
      exact greatestAtoms other.start other.atoms otherMatched
    · obtain ⟨innermost, first, _⟩ :=
        (Expr.matches_descends path.scopes selector.expr _ _ _ matched).head
      exact ⟨innermost, first, by rw [MatchResult.ofCandidate, first]; rfl⟩

end ScopeCascade.Selector
