import ScopeCascade.Selector.Match

/-! The memory of a sequence's matcher only saves work: from any calls on, it holds what the search
without a memory gives. -/
namespace ScopeCascade.Selector.SequenceMatcher

abbrev Memory := InsertionMap (Nat × Nat) (List Candidate)

/-- Every list that is remembered is what the search gives. -/
def Faithful (terms : List TermMatcher) (memory : Memory) : Prop :=
  ∀ n limit found, memory.get? (n, limit) = some found → found = search terms n limit

/-- With a faithful memory the action gives the value and leaves a faithful memory. -/
def Yields {α : Type} (terms : List TermMatcher) (action : StateM Memory α) (value : α) : Prop :=
  ∀ memory, Faithful terms memory →
    (action.run memory).1 = value ∧ Faithful terms (action.run memory).2

variable {terms : List TermMatcher}

theorem Faithful.empty : Faithful terms ∅ := by
  intro n limit found recalled
  contradiction

theorem Faithful.insert {memory : Memory} (faithful : Faithful terms memory) (n limit : Nat) :
    Faithful terms (memory.insert (n, limit) (search terms n limit)) := by
  intro m window found recalled
  rw [InsertionMap.get?_insert] at recalled
  split at recalled
  · rename_i same
    cases same
    exact (Option.some.inj recalled).symm
  · exact faithful m window found recalled

namespace Yields

variable {α β : Type}

theorem pure (value : α) : Yields terms (Pure.pure value) value := fun _ faithful => ⟨rfl, faithful⟩

theorem bind {first : StateM Memory α} {next : α → StateM Memory β} {a : α} {b : β}
    (yields : Yields terms first a) (yieldsNext : Yields terms (next a) b) :
    Yields terms (first >>= next) b := by
  intro memory faithful
  obtain ⟨value, after⟩ := yields memory faithful
  have step : (first >>= next).run memory = (next a).run (first.run memory).2 := by
    rw [← value]
    rfl
  rw [step]
  exact yieldsNext _ after

theorem mapM {action : α → StateM Memory β} {value : α → β} (items : List α)
    (each : ∀ item, Yields terms (action item) (value item)) :
    Yields terms (items.mapM action) (items.map value) := by
  induction items with
  | nil =>
    rw [List.mapM_nil]
    exact pure []
  | cons item rest ih =>
    rw [List.mapM_cons]
    exact (each item).bind (ih.bind (pure _))

/-- Looking a list up before it is worked out changes nothing. -/
theorem consult {n limit : Nat} {rest : StateM Memory (List Candidate)}
    (yields : Yields terms rest (search terms n limit)) :
    Yields terms (do
      match (← get).get? (n, limit) with
      | some known => return known
      | none => rest) (search terms n limit) := by
  intro memory faithful
  cases recalled : memory.get? (n, limit) with
  | some known =>
    simp only [StateT.run_bind, StateT.run_get, pure_bind, recalled]
    exact ⟨faithful n limit known recalled, faithful⟩
  | none =>
    simp only [StateT.run_bind, StateT.run_get, pure_bind, recalled]
    exact yields memory faithful

/-- A list may be remembered once it has been worked out. -/
theorem remember (n limit : Nat) :
    Yields terms (do
      let found ← Pure.pure (search terms n limit)
      modify (·.insert (n, limit) found)
      return found) (search terms n limit) :=
  fun _ faithful => ⟨rfl, faithful.insert n limit⟩

end Yields

theorem searchMemo_yields (n limit : Nat) :
    Yields terms (searchMemo terms n limit) (search terms n limit) := by
  induction n generalizing limit with
  | zero => exact .pure []
  | succ n ih =>
    rw [searchMemo]
    apply Yields.consult
    have remember : Yields terms _ (search terms (n + 1) limit) := Yields.remember (n + 1) limit
    rw [search] at remember ⊢
    split
    · rename_i first
      simpa only [first, if_true] using remember
    · rename_i later
      simp only [later, if_false] at remember ⊢
      have each (candidate : Candidate) : Yields terms
          (do return (← searchMemo terms n candidate.start).map candidate.extend)
          ((search terms n candidate.start).map candidate.extend) :=
        (ih candidate.start).bind (.pure _)
      exact (Yields.mapM _ each).bind remember

/-- What is remembered before the action is remembered after it. -/
def Keeps {α : Type} (action : StateM Memory α) : Prop :=
  ∀ memory, ∀ key ∈ memory.keys, key ∈ (action.run memory).2.keys

/-- Besides, something is remembered under the key. -/
def Fills {α : Type} (key : Nat × Nat) (action : StateM Memory α) : Prop :=
  ∀ memory, ∀ other, other = key ∨ other ∈ memory.keys → other ∈ (action.run memory).2.keys

namespace Keeps

variable {α β : Type}

theorem pure (value : α) : Keeps (Pure.pure value) := fun _ _ member => member

theorem bind {first : StateM Memory α} {next : α → StateM Memory β} (keeps : Keeps first)
    (keepsNext : ∀ value, Keeps (next value)) : Keeps (first >>= next) :=
  fun memory key member => keepsNext _ _ key (keeps memory key member)

theorem mapM {action : α → StateM Memory β} (items : List α)
    (each : ∀ item, Keeps (action item)) : Keeps (items.mapM action) := by
  induction items with
  | nil =>
    rw [List.mapM_nil]
    exact pure []
  | cons item rest ih =>
    rw [List.mapM_cons]
    exact (each item).bind fun _ => ih.bind fun _ => pure _

end Keeps

namespace Fills

variable {α β : Type} {key : Nat × Nat}

theorem keeps {action : StateM Memory α} (fills : Fills key action) : Keeps action :=
  fun memory other member => fills memory other (.inr member)

theorem bind {first : StateM Memory α} {next : α → StateM Memory β} (keeps : Keeps first)
    (fills : ∀ value, Fills key (next value)) : Fills key (first >>= next) :=
  fun memory other cause => fills _ _ other (cause.imp_right (keeps memory other))

theorem consult {rest : StateM Memory (List Candidate)} (fills : Fills key rest) :
    Fills key (do
      match (← get).get? key with
      | some known => return known
      | none => rest) := by
  intro memory other cause
  cases recalled : memory.get? key with
  | some known =>
    simp only [StateT.run_bind, StateT.run_get, pure_bind, recalled]
    rcases cause with rfl | member
    · exact InsertionMap.mem_keys_of_get? recalled
    · exact member
  | none =>
    simp only [StateT.run_bind, StateT.run_get, pure_bind, recalled]
    exact fills memory other cause

theorem remember (key : Nat × Nat) (found : List Candidate) :
    Fills key (do
      modify (·.insert key found)
      return found) := by
  intro memory other cause
  change other ∈ (memory.insert key found).keys
  rw [InsertionMap.keys_insert]
  split
  · rename_i present
    rcases cause with rfl | member
    · exact present
    · exact member
  · exact List.mem_append.mpr (cause.symm.imp_right List.mem_singleton.mpr)

end Fills

theorem searchMemo_fills (terms : List TermMatcher) (n limit : Nat) :
    Fills (n + 1, limit) (searchMemo terms (n + 1) limit) := by
  induction n generalizing limit with
  | zero =>
    rw [searchMemo]
    exact .consult (.remember _ _)
  | succ n ih =>
    rw [searchMemo]
    refine .consult ?_
    rw [if_neg (Nat.succ_ne_zero n)]
    have each (candidate : Candidate) : Keeps
        (do return (← searchMemo terms (n + 1) candidate.start).map candidate.extend) :=
      (ih candidate.start).keeps.bind fun _ => .pure _
    exact .bind (.mapM _ each) fun _ => .bind (.pure _) fun _ => .remember _ _

/-- What a matcher answers is what the search gives, and it stays so after the call. -/
theorem candidates_eq_search (matcher : SequenceMatcher)
    (faithful : Faithful matcher.terms matcher.memo) (n limit : Nat) :
    (matcher.candidates n limit).1 = search matcher.terms n limit ∧
      (matcher.candidates n limit).2.terms = matcher.terms ∧
      Faithful matcher.terms (matcher.candidates n limit).2.memo := by
  obtain ⟨value, after⟩ := searchMemo_yields n limit matcher.memo faithful
  exact ⟨value, rfl, after⟩

end ScopeCascade.Selector.SequenceMatcher
