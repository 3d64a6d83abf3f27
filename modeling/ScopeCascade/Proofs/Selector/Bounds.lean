import Mathlib
import ScopeCascade.Proofs.Selector.Parsing
import ScopeCascade.Proofs.Selector.Windows

/-! A match never asks for what is not there. Matching is written once more with every access
checked and with a table for the memory of a sequence, one row for each number of terms and one
column for each limit; where a scope, a cell or a term is missing, a number falls below zero, or a
window does not shrink, it fails. For the expressions of selectors it does not fail, and gives the
same. -/
namespace ScopeCascade.Selector

namespace Guarded

/-- A step that cannot be taken. -/
inductive Failure
  | noScope (index : Nat)
  | noCell (n limit : Nat)
  | noTerm (n : Nat)
  | belowZero
  /-- The window is not inside the one that it comes from. -/
  | notInside (limit outer : Nat)
deriving DecidableEq

abbrev Checked := Except Failure

/-- The entry at an index. -/
def entry {α : Type} (failure : Failure) (list : List α) (index : Nat) : Checked α :=
  match list[index]? with
  | some found => .ok found
  | none => .error failure

abbrev Table := List (List (Option (List Candidate)))

namespace Table

def blank (terms scopes : Nat) : Table :=
  List.replicate (terms + 1) (List.replicate (scopes + 1) none)

def read (table : Table) (n limit : Nat) : Checked (Option (List Candidate)) := do
  entry (.noCell n limit) (← entry (.noCell n limit) table n) limit

def write (table : Table) (n limit : Nat) (found : List Candidate) : Checked Table := do
  let row ← entry (.noCell n limit) table n
  let _ ← entry (.noCell n limit) row limit
  return table.set n (row.set limit (some found))

end Table

abbrev Search := StateT Table Checked

def lookUp (n limit : Nat) : Search (Option (List Candidate)) := fun table =>
  (table.read n limit).map fun cell => (cell, table)

def record (n limit : Nat) (found : List Candidate) : Search Unit := fun table =>
  (table.write n limit found).map fun after => ((), after)

abbrev Matcher := Nat → Checked (List Candidate)

def demandInside (limit outer : Nat) : Checked Unit :=
  if limit < outer then .ok () else .error (.notInside limit outer)

/-- The candidates of the first `n` terms inside a window, looked up in the table before they are
searched for. -/
def search (terms : List Matcher) : Nat → Nat → Search (List Candidate)
  | 0, limit => do
    match ← lookUp 0 limit with
    | some known => return known
    | none => throw .belowZero
  | n + 1, limit => do
    match ← lookUp (n + 1) limit with
    | some known => return known
    | none =>
      let last ← entry (.noTerm n) terms n
      let tail ← last limit
      let found ←
        if n = 0 then pure tail
        else do
          let extended ← tail.mapM fun candidate => do
            demandInside candidate.start limit
            return (← search terms n candidate.start).map candidate.extend
          pure (Candidate.best extended.flatten)
      record (n + 1) limit found
      return found

def atomCandidates (path : List Scope) (scope : Scope) : Matcher := fun limit => do
  let indices ← (List.range limit).reverse.filterM fun index => do
    return scope.isPrefixOf (← entry (.noScope index) path index)
  return indices.map fun index => ⟨index, [⟨index, scope.length⟩]⟩

def anyCandidates (alternatives : List Matcher) : Matcher := fun limit => do
  return Candidate.best (← alternatives.mapM (· limit)).flatten

mutual

/-- The candidates of an expression inside a window of the path. -/
def candidates (path : List Scope) : Expr → Matcher
  | .atom scope => atomCandidates path scope
  | .sequence terms => fun limit =>
    (search (candidatesOfAll path terms) terms.length limit).run'
      (.blank terms.length path.length)
  | .union alternatives => anyCandidates (candidatesOfAll path alternatives)
  | .exclusion kept excluded => fun limit => do
    if (← candidates path excluded limit).isEmpty then candidates path kept limit else return []
  | .group alternatives => anyCandidates (candidatesOfAll path alternatives)

def candidatesOfAll (path : List Scope) : List Expr → List Matcher
  | [] => []
  | expr :: rest => candidates path expr :: candidatesOfAll path rest

end

/-- The most specific way in which the expression matches the whole path. -/
def match? (expr : Expr) (path : ScopePath) : Checked (Option MatchResult) := do
  return (Candidate.greatest? (← candidates path.scopes expr path.depth)).map .ofCandidate

theorem entry_eq_ok_iff {α : Type} {failure : Failure} {list : List α} {index : Nat} {found : α} :
    entry failure list index = .ok found ↔ list[index]? = some found := by
  unfold entry
  cases list[index]? <;> simp

theorem entry_of_lt {α : Type} {failure : Failure} {list : List α} {index : Nat}
    (inside : index < list.length) : entry failure list index = .ok list[index] :=
  entry_eq_ok_iff.mpr (List.getElem?_eq_getElem inside)

theorem Table.read_eq_ok_iff {table : Table} {n limit : Nat} {cell : Option (List Candidate)} :
    table.read n limit = .ok cell ↔ ∃ row, table[n]? = some row ∧ row[limit]? = some cell := by
  unfold read
  cases located : table[n]? with
  | none => simp [entry, located, bind, Except.bind]
  | some row =>
    rw [entry_eq_ok_iff.mpr located]
    exact entry_eq_ok_iff.trans (by simp)

/-- The table has its rows and columns, and every list in it is what the search gives. -/
structure Table.Sound (terms : List TermMatcher) (depth : Nat) (table : Table) : Prop where
  rows : table.length = terms.length + 1
  columns : ∀ row ∈ table, row.length = depth + 1
  faithful : ∀ n limit found, table.read n limit = .ok (some found) →
    found = SequenceMatcher.search terms n limit

namespace Table.Sound

variable {terms : List TermMatcher} {depth : Nat} {table : Table}

theorem blank (terms : List TermMatcher) (depth : Nat) :
    Table.Sound terms depth (.blank terms.length depth) where
  rows := List.length_replicate
  columns := by
    intro row member
    rw [List.eq_of_mem_replicate member, List.length_replicate]
  faithful := by
    intro n limit found read
    obtain ⟨row, located, filled⟩ := Table.read_eq_ok_iff.mp read
    rw [List.eq_of_mem_replicate (List.mem_of_getElem? located)] at filled
    have nothing := List.eq_of_mem_replicate (List.mem_of_getElem? filled)
    contradiction

theorem located (sound : Table.Sound terms depth table) {n limit : Nat} (few : n ≤ terms.length)
    (within : limit ≤ depth) : ∃ row, table[n]? = some row ∧ limit < row.length := by
  have inside : n < table.length := by
    rw [sound.rows]
    exact Nat.lt_succ_of_le few
  refine ⟨table[n], List.getElem?_eq_getElem inside, ?_⟩
  rw [sound.columns _ (List.getElem_mem inside)]
  exact Nat.lt_succ_of_le within

theorem read (sound : Table.Sound terms depth table) {n limit : Nat} (few : n ≤ terms.length)
    (within : limit ≤ depth) : ∃ cell, table.read n limit = .ok cell := by
  obtain ⟨row, found, inside⟩ := sound.located few within
  exact ⟨row[limit], Table.read_eq_ok_iff.mpr ⟨row, found, List.getElem?_eq_getElem inside⟩⟩

theorem write (sound : Table.Sound terms depth table) {n limit : Nat} (few : n ≤ terms.length)
    (within : limit ≤ depth) : ∃ after,
      table.write n limit (SequenceMatcher.search terms n limit) = .ok after ∧
        Table.Sound terms depth after := by
  obtain ⟨row, found, inside⟩ := sound.located few within
  have written : table.write n limit (SequenceMatcher.search terms n limit) =
      .ok (table.set n (row.set limit (some (SequenceMatcher.search terms n limit)))) := by
    rw [Table.write, entry_eq_ok_iff.mpr found]
    change (entry (.noCell n limit) row limit >>= fun _ => _) = _
    rw [entry_of_lt inside]
    rfl
  refine ⟨_, written, ?_, ?_, ?_⟩
  · rw [List.length_set, sound.rows]
  · intro other member
    rcases List.mem_or_eq_of_mem_set member with old | rfl
    · exact sound.columns other old
    · rw [List.length_set, sound.columns row (List.mem_of_getElem? found)]
  · intro m window known read
    obtain ⟨other, foundOther, filled⟩ := Table.read_eq_ok_iff.mp read
    rw [List.getElem?_set] at foundOther
    by_cases sameRow : n = m
    · subst sameRow
      rw [if_pos rfl] at foundOther
      obtain ⟨_, same⟩ := Option.ite_none_right_eq_some.mp foundOther
      rw [← Option.some.inj same] at filled
      rw [List.getElem?_set] at filled
      by_cases sameCell : limit = window
      · subst sameCell
        rw [if_pos rfl, if_pos inside] at filled
        exact (Option.some.inj (Option.some.inj filled)).symm
      · rw [if_neg sameCell] at filled
        exact sound.faithful n window known (Table.read_eq_ok_iff.mpr ⟨row, found, filled⟩)
    · rw [if_neg sameRow] at foundOther
      exact sound.faithful m window known (Table.read_eq_ok_iff.mpr ⟨other, foundOther, filled⟩)

end Table.Sound

/-- On every table that is so, the action gives the value and leaves such a table. -/
def Delivers (sound : Table → Prop) {α : Type} (action : Search α) (value : α) : Prop :=
  ∀ table, sound table → ∃ after, action.run table = .ok (value, after) ∧ sound after

namespace Delivers

variable {sound : Table → Prop} {α β : Type}

theorem pure (value : α) : Delivers sound (Pure.pure value) value :=
  fun table kept => ⟨table, rfl, kept⟩

theorem lift {step : Checked α} {value : α} (taken : step = .ok value) :
    Delivers sound (liftM step) value := by
  rintro table kept
  subst taken
  exact ⟨table, rfl, kept⟩

theorem bind {first : Search α} {next : α → Search β} {a : α} {b : β}
    (delivers : Delivers sound first a) (deliversNext : Delivers sound (next a) b) :
    Delivers sound (first >>= next) b := by
  intro table kept
  obtain ⟨between, reached, keptBetween⟩ := delivers table kept
  obtain ⟨after, ended, keptAfter⟩ := deliversNext between keptBetween
  refine ⟨after, ?_, keptAfter⟩
  rw [StateT.run_bind, reached]
  exact ended

theorem mapM {action : α → Search β} {value : α → β} (items : List α)
    (each : ∀ item ∈ items, Delivers sound (action item) (value item)) :
    Delivers sound (items.mapM action) (items.map value) := by
  induction items with
  | nil =>
    rw [List.mapM_nil]
    exact pure []
  | cons item rest ih =>
    obtain ⟨first, later⟩ := List.forall_mem_cons.mp each
    rw [List.mapM_cons]
    exact first.bind ((ih later).bind (pure _))

end Delivers

section Search

variable {terms : List TermMatcher} {depth n limit : Nat}

theorem Delivers.consult (few : n ≤ terms.length) (within : limit ≤ depth)
    {rest : Search (List Candidate)}
    (delivers : Delivers (Table.Sound terms depth) rest (SequenceMatcher.search terms n limit)) :
    Delivers (Table.Sound terms depth) (do
      match ← lookUp n limit with
      | some known => return known
      | none => rest) (SequenceMatcher.search terms n limit) := by
  intro table sound
  obtain ⟨cell, read⟩ := sound.read few within
  have recalled : (lookUp n limit).run table = .ok (cell, table) := by
    change Except.map _ (table.read n limit) = _
    rw [read]
    rfl
  rw [StateT.run_bind, recalled]
  cases cell with
  | some known => exact ⟨table, by rw [sound.faithful n limit known read]; rfl, sound⟩
  | none => exact delivers table sound

theorem Delivers.remember (few : n ≤ terms.length) (within : limit ≤ depth) :
    Delivers (Table.Sound terms depth) (do
      let found ← Pure.pure (SequenceMatcher.search terms n limit)
      record n limit found
      return found) (SequenceMatcher.search terms n limit) := by
  intro table sound
  obtain ⟨after, written, soundAfter⟩ := sound.write few within
  have recorded : (record n limit (SequenceMatcher.search terms n limit)).run table =
      .ok ((), after) := by
    change Except.map _ (table.write n limit _) = _
    rw [written]
    rfl
  refine ⟨after, ?_, soundAfter⟩
  rw [pure_bind, StateT.run_bind, recorded]
  rfl

variable {ι : Type} {items : List ι} {matcher : ι → TermMatcher} {guarded : ι → Matcher}

/-- One more term can be searched for where those before it can, inside all windows. -/
theorem search_succ_delivers
    (same : ∀ item ∈ items, ∀ limit ≤ depth, guarded item limit = .ok (matcher item limit))
    (inside : ∀ item ∈ items, ∀ limit, ∀ candidate ∈ matcher item limit, candidate.start < limit)
    (few : n < items.length)
    (earlier : n ≠ 0 → ∀ window ≤ depth, Delivers (Table.Sound (items.map matcher) depth)
      (search (items.map guarded) n window) (SequenceMatcher.search (items.map matcher) n window))
    (within : limit ≤ depth) :
    Delivers (Table.Sound (items.map matcher) depth) (search (items.map guarded) (n + 1) limit)
      (SequenceMatcher.search (items.map matcher) (n + 1) limit) := by
  have member := List.getElem_mem few
  have located : (items.map guarded)[n]? = some (guarded items[n]) := by
    rw [List.getElem?_map, List.getElem?_eq_getElem few, Option.map_some]
  have room : n + 1 ≤ (items.map matcher).length := by
    rw [List.length_map]
    exact few
  have remember : Delivers (Table.Sound (items.map matcher) depth) _ _ :=
    Delivers.remember room within
  have value := SequenceMatcher.search_map_succ items matcher few limit
  rw [search]
  refine .consult room within ?_
  refine .bind (.lift (entry_eq_ok_iff.mpr located)) ?_
  refine .bind (.lift (same _ member limit within)) ?_
  rw [value] at remember ⊢
  by_cases single : n = 0
  · simpa only [single, if_true] using remember
  · simp only [single, if_false] at remember ⊢
    have each : ∀ candidate ∈ matcher items[n] limit,
        Delivers (Table.Sound (items.map matcher) depth) (do
          demandInside candidate.start limit
          return (← search (items.map guarded) n candidate.start).map candidate.extend)
        ((SequenceMatcher.search (items.map matcher) n candidate.start).map candidate.extend) := by
      intro candidate listed
      have smaller := inside _ member limit candidate listed
      have demanded : demandInside candidate.start limit = .ok () := if_pos smaller
      have found := earlier single candidate.start (Nat.le_trans (Nat.le_of_lt smaller) within)
      exact .bind (.lift demanded) (.bind found (.pure _))
    exact .bind (.mapM _ each) remember

/-- If the terms can be matched inside all windows and their candidates start inside these, the
first of them can be searched for, however many, but not none. -/
theorem search_delivers
    (same : ∀ item ∈ items, ∀ limit ≤ depth, guarded item limit = .ok (matcher item limit))
    (inside : ∀ item ∈ items, ∀ limit, ∀ candidate ∈ matcher item limit, candidate.start < limit)
    (positive : n ≠ 0) (few : n ≤ items.length) (within : limit ≤ depth) :
    Delivers (Table.Sound (items.map matcher) depth) (search (items.map guarded) n limit)
      (SequenceMatcher.search (items.map matcher) n limit) := by
  induction n generalizing limit with
  | zero => contradiction
  | succ n ih =>
    exact search_succ_delivers same inside few
      (fun later _ below => ih later (Nat.le_of_lt few) below) within

end Search

theorem mapM_eq_ok {α β : Type} {action : α → Checked β} {value : α → β} {items : List α}
    (each : ∀ item ∈ items, action item = .ok (value item)) :
    items.mapM action = .ok (items.map value) := by
  induction items with
  | nil => rfl
  | cons item rest ih =>
    obtain ⟨first, later⟩ := List.forall_mem_cons.mp each
    rw [List.mapM_cons, first, ih later]
    rfl

theorem filterM_eq_ok {α : Type} {action : α → Checked Bool} {chosen : α → Bool} {items : List α}
    (each : ∀ item ∈ items, action item = .ok (chosen item)) :
    items.filterM action = .ok (items.filter chosen) := by
  have general (kept : List α) :
      items.filterAuxM action kept = .ok ((items.filter chosen).reverse ++ kept) := by
    induction items generalizing kept with
    | nil => rfl
    | cons item rest ih =>
      obtain ⟨first, later⟩ := List.forall_mem_cons.mp each
      rw [List.filterAuxM, first]
      refine (ih later _).trans ?_
      cases decided : chosen item <;> simp [decided]
  rw [List.filterM, general]
  simp [bind, Except.bind, pure, Except.pure]

theorem atomCandidates_eq (path : List Scope) (scope : Scope) {limit : Nat}
    (within : limit ≤ path.length) :
    atomCandidates path scope limit = .ok (Expr.atomCandidates path scope limit) := by
  have each : ∀ index ∈ (List.range limit).reverse, (do
      return scope.isPrefixOf (← entry (.noScope index) path index) : Checked Bool) =
        .ok (path[index]?.any scope.isPrefixOf) := by
    intro index listed
    have below : index < limit := by simpa using listed
    rw [entry_of_lt (Nat.lt_of_lt_of_le below within),
      List.getElem?_eq_getElem (Nat.lt_of_lt_of_le below within)]
    rfl
  rw [atomCandidates, filterM_eq_ok each]
  rfl

theorem candidatesOfAll_eq_map (path : List Scope) (exprs : List Expr) :
    candidatesOfAll path exprs = exprs.map (candidates path) := by
  induction exprs with
  | nil => rfl
  | cons expr rest ih => rw [candidatesOfAll, ih, List.map_cons]

theorem anyCandidates_eq {path : List Scope} {alternatives : List Expr} {limit : Nat}
    (each : ∀ alternative ∈ alternatives,
      candidates path alternative limit = .ok (alternative.candidates path limit)) :
    anyCandidates (candidatesOfAll path alternatives) limit = .ok (Candidate.best
      (alternatives.flatMap fun alternative => alternative.candidates path limit)) := by
  rw [candidatesOfAll_eq_map, anyCandidates, List.mapM_map]
  change Except.bind (alternatives.mapM fun alternative => candidates path alternative limit) _ = _
  rw [mapM_eq_ok each]
  rfl

end Guarded

namespace Expr

/-- The one expression is the other or stands somewhere in it. -/
inductive HasPart : Expr → Expr → Prop
  | whole {expr : Expr} : HasPart expr expr
  | sequence {terms : List Expr} {term part : Expr} :
      term ∈ terms → HasPart term part → HasPart (.sequence terms) part
  | union {alternatives : List Expr} {alternative part : Expr} :
      alternative ∈ alternatives → HasPart alternative part → HasPart (.union alternatives) part
  | kept {kept excluded part : Expr} : HasPart kept part → HasPart (.exclusion kept excluded) part
  | excluded {kept excluded part : Expr} :
      HasPart excluded part → HasPart (.exclusion kept excluded) part
  | group {alternatives : List Expr} {alternative part : Expr} :
      alternative ∈ alternatives → HasPart alternative part → HasPart (.group alternatives) part

/-- No sequence in the expression is empty. -/
def Filled (expr : Expr) : Prop := ∀ terms, expr.HasPart (.sequence terms) → terms ≠ []

theorem IsPart.of_hasPart {expr part : Expr} (hasPart : expr.HasPart part) (isPart : expr.IsPart) :
    part.IsPart := by
  induction hasPart with
  | whole => exact isPart
  | sequence member _ ih =>
    cases isPart with
    | sequence _ _ all => exact ih (all _ member)
  | union member _ ih => cases isPart
  | kept _ ih =>
    cases isPart with
    | exclusion kept _ => exact ih kept
  | excluded _ ih =>
    cases isPart with
    | exclusion _ excluded => exact ih excluded
  | group member _ ih =>
    cases isPart with
    | group _ all => exact ih (all _ member)

theorem IsPart.filled {expr : Expr} (isPart : expr.IsPart) : expr.Filled := by
  rintro terms hasPart rfl
  cases isPart.of_hasPart hasPart with
  | sequence several _ _ => contradiction

theorem IsWhole.filled {expr : Expr} (isWhole : expr.IsWhole) : expr.Filled := by
  cases isWhole with
  | part isPart => exact isPart.filled
  | union _ all =>
    intro terms hasPart
    cases hasPart with
    | union member inner => exact (all _ member).filled terms inner

end Expr

namespace Guarded

mutual

theorem candidates_eq (path : List Scope) : (expr : Expr) → expr.Filled → ∀ limit ≤ path.length,
    candidates path expr limit = .ok (expr.candidates path limit)
  | .atom scope => fun _ limit within => atomCandidates_eq path scope within
  | .sequence terms => by
    intro filled limit within
    have each := candidates_eq_all path terms fun term member others inner =>
      filled others (.sequence member inner)
    have positive : terms.length ≠ 0 := fun none =>
      filled terms .whole (List.length_eq_zero_iff.mp none)
    obtain ⟨after, delivered, _⟩ := search_delivers each
      (fun _ _ _ _ listed => Expr.start_lt_of_mem_candidates listed) positive
      (Nat.le_refl terms.length) within _ (.blank _ path.length)
    rw [List.length_map] at delivered
    simp only [candidates, candidatesOfAll_eq_map, StateT.run'_eq, delivered,
      Expr.candidates_sequence]
    rfl
  | .union alternatives => by
    intro filled limit within
    have each := candidates_eq_all path alternatives fun alternative member others inner =>
      filled others (.union member inner)
    rw [candidates, anyCandidates_eq fun alternative member => each alternative member limit within]
    simp only [Expr.candidates, Expr.flatMap_candidatesOfAll]
  | .exclusion kept excluded => by
    intro filled limit within
    have keeps := candidates_eq path kept (fun others inner => filled others (.kept inner)) limit
      within
    have excludes := candidates_eq path excluded
      (fun others inner => filled others (.excluded inner)) limit within
    simp only [candidates, Expr.candidates, excludes, keeps, bind, Except.bind]
    split <;> rfl
  | .group alternatives => by
    intro filled limit within
    have each := candidates_eq_all path alternatives fun alternative member others inner =>
      filled others (.group member inner)
    rw [candidates, anyCandidates_eq fun alternative member => each alternative member limit within]
    simp only [Expr.candidates, Expr.flatMap_candidatesOfAll]

theorem candidates_eq_all (path : List Scope) : (exprs : List Expr) →
    (∀ expr ∈ exprs, expr.Filled) → ∀ expr ∈ exprs, ∀ limit ≤ path.length,
      candidates path expr limit = .ok (expr.candidates path limit)
  | [] => by
    intro _ expr member
    contradiction
  | first :: rest => by
    intro filled expr member
    obtain ⟨filledFirst, filledRest⟩ := List.forall_mem_cons.mp filled
    rcases List.mem_cons.mp member with same | member
    · exact same ▸ candidates_eq path first filledFirst
    · exact candidates_eq_all path rest filledRest expr member

end

end Guarded

/-- A match takes every step that it tries. No scope, cell or term is asked for that is not there,
and no number falls below zero: no sequence in a selector is empty, and every candidate, at whose
start the next window ends, starts inside the window it was found in. -/
theorem match_stays_inside {text : String} {selector : Selector}
    (parsed : parse text = .ok selector) (path : ScopePath) :
    Guarded.match? selector.expr path = .ok (selector.match? path) ∧
      (∀ terms, selector.expr.HasPart (.sequence terms) → terms ≠ []) ∧
      ∀ (expr : Expr) (limit : Nat), ∀ candidate ∈ expr.candidates path.scopes limit,
        candidate.start < limit := by
  have filled : selector.expr.Filled := ((parse_iff_derives text).2 selector parsed).filled
  refine ⟨?_, filled, fun expr limit candidate listed => Expr.start_lt_of_mem_candidates listed⟩
  rw [Guarded.match?, Guarded.candidates_eq path.scopes selector.expr filled path.depth
    (Nat.le_refl path.depth)]
  rfl

theorem match_stays_inside_nested_sequences :
    let block : Scope := ⟨[⟨"block".toList, by decide⟩], by decide⟩
    let string : Scope := ⟨[⟨"string".toList, by decide⟩], by decide⟩
    let text : Scope := ⟨[⟨"text".toList, by decide⟩], by decide⟩
    let inner : List Expr := [.atom block, .atom string]
    let selector : Selector := ⟨"block (block string | text) - text block".toList,
      .exclusion (.sequence [.atom block, .group [.sequence inner, .atom text]])
        (.sequence [.atom text, .atom block])⟩
    let path : ScopePath := ⟨[block, block, string], by decide⟩
    let result : MatchResult := ⟨0, 3, [⟨2, 1⟩, ⟨1, 1⟩, ⟨0, 1⟩]⟩
    let candidate : Candidate := ⟨0, [⟨2, 1⟩, ⟨0, 1⟩]⟩
    parse "block (block string | text) - text block" = .ok selector ∧
      Guarded.match? selector.expr path = .ok (some result) ∧
      selector.expr.HasPart (.sequence inner) ∧ inner ≠ [] ∧
      candidate ∈ (Expr.sequence inner).candidates path.scopes 3 ∧ candidate.start < 3 := by
  intro block string text inner selector path result candidate
  have parsed : parse "block (block string | text) - text block" = .ok selector := by cbv
  have reported : selector.match? path = some result := by cbv
  obtain ⟨taken, filled, inside⟩ := match_stays_inside parsed path
  have hasPart : selector.expr.HasPart (.sequence inner) :=
    .kept (.sequence (List.mem_cons_of_mem _ List.mem_cons_self) (.group List.mem_cons_self .whole))
  have listed : candidate ∈ (Expr.sequence inner).candidates path.scopes 3 := by decide +kernel
  exact ⟨parsed, by rw [taken, reported], hasPart, filled inner hasPart, listed,
    inside (.sequence inner) 3 candidate listed⟩

/-- An empty sequence would ask for the term before its first one. -/
example (scope : Scope) :
    Guarded.match? (.sequence []) ⟨[scope], List.cons_ne_nil _ _⟩ = .error .belowZero := rfl

end ScopeCascade.Selector
