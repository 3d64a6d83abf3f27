import Mathlib.Data.List.Basic
import ScopeCascade.Proofs.Selector.BestMatch

/-! What a window is to a search. Every candidate starts inside its window, so the windows of a
sequence shrink from one term to the one before it, and no candidate depends on the scopes behind
the window. What a sequence's matcher remembers for its first terms and a window is hence what these
terms have in the path up to there, whatever the matcher was asked before. -/
namespace ScopeCascade.Selector

theorem Expr.start_lt_of_mem_candidates {path : List Scope} {expr : Expr} {limit : Nat}
    {candidate : Candidate} (member : candidate ∈ expr.candidates path limit) :
    candidate.start < limit :=
  (Expr.matches_descends path expr _ _ _
    ((Expr.candidates_realize path expr).sound limit candidate member)).start_lt

theorem Expr.flatMap_candidatesOfAll (path : List Scope) (exprs : List Expr) (limit : Nat) :
    (Expr.candidatesOfAll path exprs).flatMap (· limit) =
      exprs.flatMap fun expr => expr.candidates path limit := by
  rw [Expr.candidatesOfAll_eq_map, List.flatMap_map]

namespace SequenceMatcher

theorem search_map_succ {ι : Type} (items : List ι) (matcher : ι → TermMatcher) {n : Nat}
    (within : n < items.length) (limit : Nat) :
    search (items.map matcher) (n + 1) limit =
      if n = 0 then matcher items[n] limit
      else Candidate.best ((matcher items[n] limit).flatMap fun candidate =>
        (search (items.map matcher) n candidate.start).map candidate.extend) := by
  rw [search, List.getElem?_map, List.getElem?_eq_getElem within]
  rfl

/-- The search for the first terms does not see the others. -/
theorem search_take (terms : List TermMatcher) {n count : Nat} (within : n ≤ count) (limit : Nat) :
    search (terms.take count) n limit = search terms n limit := by
  induction n generalizing limit with
  | zero => rfl
  | succ n ih =>
    have same : (terms.take count)[n]? = terms[n]? := List.getElem?_take_of_lt within
    rw [search, search, same]
    simp only [ih (Nat.le_of_lt within)]

/-- Terms that agree in small windows are found alike there, if their candidates start inside the
windows. -/
theorem search_congr {ι : Type} {items : List ι} {first second : ι → TermMatcher} {bound : Nat}
    (same : ∀ item ∈ items, ∀ limit ≤ bound, first item limit = second item limit)
    (inside : ∀ item ∈ items, ∀ limit, ∀ candidate ∈ second item limit, candidate.start < limit)
    (n : Nat) {limit : Nat} (within : limit ≤ bound) :
    search (items.map first) n limit = search (items.map second) n limit := by
  induction n generalizing limit with
  | zero => rfl
  | succ n ih =>
    rw [search, search, List.getElem?_map, List.getElem?_map]
    cases found : items[n]? with
    | none => rfl
    | some item =>
      have member : item ∈ items := List.mem_of_getElem? found
      have shrinks : ∀ candidate ∈ second item limit,
          search (items.map first) n candidate.start =
            search (items.map second) n candidate.start := fun candidate listed =>
        ih (Nat.le_trans (Nat.le_of_lt (inside item member limit candidate listed)) within)
      simp only [Option.map_some, Option.getD_some, same item member limit within]
      split
      · rfl
      · congr 1
        exact List.flatMap_congr fun candidate listed => by rw [shrinks candidate listed]

end SequenceMatcher

mutual

/-- The scopes behind a window do not count. -/
theorem Expr.candidates_take (path : List Scope) (bound : Nat) :
    (expr : Expr) → ∀ limit ≤ bound,
      expr.candidates (path.take bound) limit = expr.candidates path limit
  | .atom scope => by
    intro limit within
    change List.map _ _ = List.map _ _
    congr 1
    refine List.filter_congr fun index listed => ?_
    have below : index < limit := by simpa using listed
    rw [List.getElem?_take_of_lt (Nat.lt_of_lt_of_le below within)]
  | .sequence terms => by
    intro limit within
    rw [Expr.candidates_sequence, Expr.candidates_sequence]
    exact SequenceMatcher.search_congr (Expr.candidates_take_all path bound terms)
      (fun _ _ _ _ listed => Expr.start_lt_of_mem_candidates listed) terms.length within
  | .union alternatives => by
    intro limit within
    have same := Expr.candidates_take_all path bound alternatives
    simp only [Expr.candidates, Expr.flatMap_candidatesOfAll]
    congr 1
    exact List.flatMap_congr fun alternative member => same alternative member limit within
  | .exclusion kept excluded => by
    intro limit within
    simp only [Expr.candidates, Expr.candidates_take path bound kept limit within,
      Expr.candidates_take path bound excluded limit within]
  | .group alternatives => by
    intro limit within
    have same := Expr.candidates_take_all path bound alternatives
    simp only [Expr.candidates, Expr.flatMap_candidatesOfAll]
    congr 1
    exact List.flatMap_congr fun alternative member => same alternative member limit within

theorem Expr.candidates_take_all (path : List Scope) (bound : Nat) :
    (exprs : List Expr) → ∀ expr ∈ exprs, ∀ limit ≤ bound,
      expr.candidates (path.take bound) limit = expr.candidates path limit
  | [] => by
    intro expr member
    contradiction
  | first :: rest => by
    intro expr member
    rcases List.mem_cons.mp member with same | member
    · exact same ▸ Expr.candidates_take path bound first
    · exact Expr.candidates_take_all path bound rest expr member

end

namespace SequenceMatcher

/-- The search for the first terms inside a window is their whole search in the path up to there. -/
theorem search_eq_candidates (path : List Scope) (terms : List Expr) {n : Nat}
    (within : n ≤ terms.length) (limit : Nat) :
    search (Expr.candidatesOfAll path terms) n limit =
      (Expr.sequence (terms.take n)).candidates (path.take limit) limit := by
  rw [Expr.candidates_take path limit _ limit (Nat.le_refl limit), Expr.candidates_sequence,
    List.length_take_of_le within, List.map_take, search_take _ (Nat.le_refl n),
    Expr.candidatesOfAll_eq_map]

/-- The answers to several calls in turn, and the matcher after them. -/
def answers (matcher : SequenceMatcher) : List (Nat × Nat) → List (List Candidate) × SequenceMatcher
  | [] => ([], matcher)
  | (n, limit) :: calls =>
    let (found, next) := matcher.candidates n limit
    let (rest, last) := next.answers calls
    (found :: rest, last)

theorem Faithful.get?_of_mem {terms : List TermMatcher} {memory : Memory}
    (faithful : Faithful terms memory) {key : Nat × Nat} (member : key ∈ memory.keys) :
    memory.get? key = some (search terms key.1 key.2) := by
  cases recalled : memory.get? key with
  | none => exact absurd member ((memory.get?_eq_none_iff key).mp recalled)
  | some found => rw [faithful key.1 key.2 found recalled]

/-- What a matcher answers in a row is what the search gives each time. The calls are remembered
after them, and what was remembered before them. -/
theorem answers_eq_search (matcher : SequenceMatcher)
    (faithful : Faithful matcher.terms matcher.memo) (calls : List (Nat × Nat)) :
    (matcher.answers calls).1 = calls.map (fun call => search matcher.terms call.1 call.2) ∧
      (matcher.answers calls).2.terms = matcher.terms ∧
      Faithful matcher.terms (matcher.answers calls).2.memo ∧
      ∀ key, key.1 ≠ 0 ∧ key ∈ calls ∨ key ∈ matcher.memo.keys →
        key ∈ (matcher.answers calls).2.memo.keys := by
  induction calls generalizing matcher with
  | nil => exact ⟨rfl, rfl, faithful, fun key cause => cause.resolve_left (by simp)⟩
  | cons call calls ih =>
    obtain ⟨n, limit⟩ := call
    obtain ⟨value, same, after⟩ := matcher.candidates_eq_search faithful n limit
    obtain ⟨values, sameLast, last, kept⟩ := ih (matcher.candidates n limit).2 (same ▸ after)
    rw [same] at values sameLast last
    refine ⟨?_, sameLast, last, fun key cause => kept key ?_⟩
    · rw [List.map_cons, ← values, ← value]
      rfl
    · cases n with
      | zero =>
        refine cause.imp_left fun ⟨positive, member⟩ => ⟨positive, ?_⟩
        refine (List.mem_cons.mp member).resolve_left ?_
        rintro rfl
        exact positive rfl
      | succ n =>
        have fills := searchMemo_fills matcher.terms n limit matcher.memo key
        rcases cause with ⟨positive, member⟩ | member
        · rcases List.mem_cons.mp member with rfl | later
          · exact .inr (fills (.inl rfl))
          · exact .inl ⟨positive, later⟩
        · exact .inr (fills (.inr member))

/-- Whatever a sequence's matcher is asked, in any order, it answers what the search without a
memory gives. What it remembers for its first `n` terms and a window is what the sequence of these
terms alone has in the path up to the window's limit; it remembers this for every call, and never
forgets or changes it. -/
theorem memory_only_saves_work (path : List Scope) (terms : List Expr)
    (calls : List (Nat × Nat)) :
    let matcher : SequenceMatcher := ⟨Expr.candidatesOfAll path terms, ∅⟩
    let after := (matcher.answers calls).2
    (matcher.answers calls).1 = calls.map (fun call => search matcher.terms call.1 call.2) ∧
      (∀ n limit found, after.memo.get? (n, limit) = some found →
        found = search matcher.terms n limit ∧
          ∀ more, (after.answers more).2.memo.get? (n, limit) = some found) ∧
      (∀ call ∈ calls, call.1 ≠ 0 →
        after.memo.get? call = some (search matcher.terms call.1 call.2)) ∧
      ∀ n ≤ terms.length, ∀ limit, search matcher.terms n limit =
        (Expr.sequence (terms.take n)).candidates (path.take limit) limit := by
  intro matcher after
  obtain ⟨values, same, faithful, kept⟩ := matcher.answers_eq_search .empty calls
  refine ⟨values, fun n limit found recalled => ?_, fun call member positive => ?_,
    fun n within limit => search_eq_candidates path terms within limit⟩
  · have searched := faithful n limit found recalled
    refine ⟨searched, fun more => ?_⟩
    have present : (n, limit) ∈ after.memo.keys := InsertionMap.mem_keys_of_get? recalled
    obtain ⟨_, _, faithfulLater, keptLater⟩ := after.answers_eq_search (same ▸ faithful) more
    rw [faithfulLater.get?_of_mem (keptLater _ (.inr present)), same, searched]
  · exact faithful.get?_of_mem (kept call (.inl ⟨positive, member⟩))

theorem memory_only_saves_work_in_nested_blocks :
    let block : Scope := ⟨[⟨"block".toList, by decide⟩], by decide⟩
    let quoted : Scope := ⟨[⟨"block".toList, by decide⟩, ⟨"quoted".toList, by decide⟩], by decide⟩
    let path := [block, quoted, block, quoted]
    let terms : List Expr := [.atom block, .atom quoted, .atom block]
    let matcher : SequenceMatcher := ⟨Expr.candidatesOfAll path terms, ∅⟩
    let calls := [(2, 4), (3, 3), (2, 2), (3, 4)]
    let after := (matcher.answers calls).2
    let found : List Candidate := [⟨0, [⟨1, 2⟩, ⟨0, 1⟩]⟩]
    (matcher.answers calls).1 = calls.map (fun call => search matcher.terms call.1 call.2) ∧
      search matcher.terms 2 2 = found ∧ (2, 2) ∈ calls ∧ (2, 2).1 ≠ 0 ∧ 2 ≤ terms.length ∧
      after.memo.get? (2, 2) = some found ∧
      (after.answers [(3, 4)]).2.memo.get? (2, 2) = some found ∧
      (Expr.sequence [.atom block, .atom quoted]).candidates [block, quoted] 2 = found := by
  intro block quoted path terms matcher calls after found
  have laws := memory_only_saves_work path terms calls
  -- Left folded, the matcher would be run to see that it is the one of the theorem.
  dsimp only [after, matcher] at laws ⊢
  obtain ⟨values, remembered, filled, searched⟩ := laws
  have alone := searched 2 (by decide) 2
  have value : search (Expr.candidatesOfAll path terms) 2 2 = found := by cbv
  have recalled := filled (2, 2) (by decide) (by decide)
  rw [value] at recalled
  exact ⟨values, value, by decide, by decide, by decide, recalled,
    (remembered 2 2 found recalled).2 [(3, 4)], alone.symm.trans value⟩

end SequenceMatcher

end ScopeCascade.Selector
