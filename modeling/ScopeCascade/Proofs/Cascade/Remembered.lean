import Mathlib.Data.Set.Card
import Mathlib.Tactic.Tauto
import ScopeCascade.Proofs.Cascade.Operation

/-! What the memory holds after any run: one resolution for each question that was asked since an
operation last made the memory void. -/
namespace ScopeCascade.Cascade

namespace Operation

/-- The question that an operation asks: a path, and whether there is a selection. -/
def asks : Operation → Option (ScopePath × Bool)
  | resolve path hasSelection | commandsForScope path hasSelection => some (path, hasSelection)
  | preference path _ | preferences path _ => some (path, false)
  | _ => none

/-- Whether an operation makes the memory void. -/
def voids (cascade : Cascade) : Operation → Bool
  | register spec => spec.compile.isOk
  | registerBundle _ | replaceBundle _ => true
  | unregisterBundle bundle => cascade.records.any (·.bundle = bundle)
  | _ => false

/-- A question makes nothing void. -/
theorem voids_of_asks (cascade : Cascade) (operation : Operation) (question : ScopePath × Bool)
    (asked : operation.asks = some question) : operation.voids cascade = false := by
  cases operation <;> first | rfl | contradiction

end Operation

/-- The memory with the resolution of a question, worked out unless it is there. -/
def remembering (cascade : Cascade) (question : ScopePath × Bool) :
    InsertionMap (ScopePath × Bool) Resolution :=
  match cascade.cache.get? question with
  | some _ => cascade.cache
  | none =>
    cascade.cache.insert question
      ⟨cascade.resolveUncached question.1 question.2, cascade.nextSerial⟩

/-- No operation of a run makes the memory void. -/
def Spares (cascade : Cascade) : List Operation → Prop
  | [] => True
  | operation :: rest =>
    operation.voids cascade = false ∧ (operation.perform cascade).2.Spares rest

/-- A run asks the question, and no later operation of it makes the memory void. -/
def AskedSince (cascade : Cascade) (question : ScopePath × Bool) : List Operation → Prop
  | [] => False
  | operation :: rest =>
    operation.asks = some question ∧ (operation.perform cascade).2.Spares rest ∨
      (operation.perform cascade).2.AskedSince question rest

theorem mem_keys_remembering (cascade : Cascade) (asked question : ScopePath × Bool) :
    question ∈ (cascade.remembering asked).keys ↔
      question ∈ cascade.cache.keys ∨ asked = question := by
  rw [remembering]
  cases known : cascade.cache.get? asked with
  | some held =>
    constructor
    · exact .inl
    · rintro (held | rfl)
      · exact held
      · exact InsertionMap.mem_keys_of_get? known
  | none =>
    have absent := (cascade.cache.get?_eq_none_iff asked).mp known
    dsimp only
    rw [InsertionMap.keys_insert, if_neg absent, List.mem_append, List.mem_singleton, eq_comm]

theorem resolve_cache (cascade : Cascade) (path : ScopePath) (hasSelection : Bool) :
    (cascade.resolve path hasSelection).2.cache =
      if cascade.options.cache then cascade.remembering (path, hasSelection)
      else cascade.cache := by
  rw [resolve, remembering]
  cases known : cascade.cache.get? (path, hasSelection) with
  | some held => exact (ite_self _).symm
  | none =>
    dsimp only
    split
    · simp [store, known]
    · rfl

theorem unregisterBundle_cache (cascade : Cascade) (bundle : String) :
    (cascade.unregisterBundle bundle).2.cache =
      if (Operation.unregisterBundle bundle).voids cascade then ∅ else cascade.cache := by
  have removes : 0 < cascade.records.length - (cascade.dropBundle bundle).records.length ↔
      (Operation.unregisterBundle bundle).voids cascade = true := by
    rw [Nat.sub_pos_iff_lt, dropBundle, List.length_filter_lt_length_iff_exists, Operation.voids,
      List.any_eq_true]
    simp
  rw [unregisterBundle]
  dsimp only
  simp only [removes]
  split <;> rfl

/-- All that an operation can do to the memory. -/
theorem perform_cache (operation : Operation) (cascade : Cascade) :
    (operation.perform cascade).2.cache =
      if operation.voids cascade then ∅
      else if cascade.options.cache then operation.asks.elim cascade.cache cascade.remembering
      else cascade.cache := by
  have untouched : cascade.cache =
      if cascade.options.cache then cascade.cache else cascade.cache := (ite_self _).symm
  cases operation with
  | register spec =>
    rw [Operation.perform, register, Operation.voids]
    cases spec.compile with
    | error error => exact untouched
    | ok record => rfl
  | registerBundle bundle => rfl
  | replaceBundle bundle => rfl
  | unregisterBundle bundle =>
    have asksNone : (Operation.unregisterBundle bundle).asks = none := rfl
    rw [asksNone, Option.elim_none, ← untouched]
    exact cascade.unregisterBundle_cache bundle
  | resolve path hasSelection => exact cascade.resolve_cache path hasSelection
  | preference path key => exact cascade.resolve_cache path false
  | preferences path keys => exact cascade.resolve_cache path false
  | commandsForScope path hasSelection => exact cascade.resolve_cache path hasSelection
  | resolveUncached path hasSelection => exact untouched
  | ranking path hasSelection => exact untouched
  | size => exact untouched
  | isEmpty => exact untouched

theorem resolve_options (cascade : Cascade) (path : ScopePath) (hasSelection : Bool) :
    (cascade.resolve path hasSelection).2.options = cascade.options := by
  unfold resolve store
  split
  · rfl
  · dsimp only
    split
    · split
      · split <;> rfl
      · rfl
    · rfl

theorem pushAll_options (cascade : Cascade) (records : List CompiledRecord) :
    (cascade.pushAll records).options = cascade.options := by
  rw [pushAll_eq]

theorem perform_options (operation : Operation) (cascade : Cascade) :
    (operation.perform cascade).2.options = cascade.options := by
  cases operation with
  | register spec =>
    rw [Operation.perform, register]
    cases spec.compile <;> rfl
  | registerBundle bundle => exact cascade.pushAll_options (compileBundle bundle).1
  | replaceBundle bundle =>
    exact (cascade.dropBundle bundle.uuid).pushAll_options (compileBundle bundle).1
  | unregisterBundle bundle =>
    rw [Operation.perform, unregisterBundle]
    dsimp only
    split <;> rfl
  | resolve path hasSelection => exact cascade.resolve_options path hasSelection
  | preference path key => exact cascade.resolve_options path false
  | preferences path keys => exact cascade.resolve_options path false
  | commandsForScope path hasSelection => exact cascade.resolve_options path hasSelection
  | resolveUncached path hasSelection => rfl
  | ranking path hasSelection => rfl
  | size => rfl
  | isEmpty => rfl

theorem run_options (cascade : Cascade) (operations : List Operation) :
    (cascade.run operations).2.options = cascade.options :=
  run_keeps (·.options = cascade.options)
    (fun operation next same => (perform_options operation next).trans same) rfl operations

theorem mem_keys_perform {cascade : Cascade} (remembers : cascade.options.cache = true)
    (operation : Operation) (question : ScopePath × Bool) :
    question ∈ (operation.perform cascade).2.cache.keys ↔
      operation.voids cascade = false ∧
        (question ∈ cascade.cache.keys ∨ operation.asks = some question) := by
  rw [perform_cache, if_pos remembers]
  cases operation.voids cascade with
  | true => simp [InsertionMap.keys, EmptyCollection.emptyCollection]
  | false =>
    rw [if_neg Bool.false_ne_true, eq_self, true_and]
    cases operation.asks with
    | none => simp
    | some asked => rw [Option.elim_some, mem_keys_remembering, Option.some_inj]

/-- A question is remembered after a run if it was before and no operation makes the memory void, or
if the run asks it behind the last operation that does. -/
theorem mem_keys_run {cascade : Cascade} (remembers : cascade.options.cache = true)
    (operations : List Operation) (question : ScopePath × Bool) :
    question ∈ (cascade.run operations).2.cache.keys ↔
      question ∈ cascade.cache.keys ∧ cascade.Spares operations ∨
        cascade.AskedSince question operations := by
  induction operations generalizing cascade with
  | nil => simp [run, Spares, AskedSince]
  | cons operation rest ih =>
    have next : (operation.perform cascade).2.options.cache = true := by
      rw [perform_options, remembers]
    have harmless := operation.voids_of_asks cascade question
    rw [run_cons, ih next, mem_keys_perform remembers, Spares, AskedSince]
    -- It was remembered before, or the first operation asks it, or a later one does.
    tauto

theorem cachedEntries_eq_encard (cascade : Cascade) :
    cascade.cachedEntries = {question | question ∈ cascade.cache.keys}.encard := by
  have distinct : cascade.cache.keys.Nodup := cascade.cache.distinct
  have size : cascade.cachedEntries = cascade.cache.keys.length := (List.length_map _).symm
  rw [← List.coe_toFinset, Set.encard_coe_eq_coe_finsetCard, List.toFinset_card_of_nodup distinct,
    size]

theorem run_forgets {cascade : Cascade} (forgets : cascade.options.cache = false)
    (empty : cascade.cache = ∅) (operations : List Operation) :
    (cascade.run operations).2.cache = ∅ := by
  have step (operation : Operation) (next : Cascade)
      (held : next.options.cache = false ∧ next.cache = ∅) :
      (operation.perform next).2.options.cache = false ∧ (operation.perform next).2.cache = ∅ := by
    rw [perform_options, perform_cache, held.1, held.2, if_neg Bool.false_ne_true, ite_self]
    exact ⟨rfl, rfl⟩
  exact (run_keeps _ step ⟨forgets, empty⟩ operations).2

/-- With a memory, there are as many remembered resolutions as questions that were asked since an
operation last made the memory void. That is what successful registrations, registrations and
replacements of bundles do, and removals of bundles that have records; every other operation leaves
what is remembered, and adds to it no more than the question that it asks. Without a memory nothing
is ever remembered. -/
theorem questions_remembered (operations : List Operation) :
    let remembering := ofOptions { cache := true }
    let reached := (remembering.run operations).2
    reached.cachedEntries = {question | remembering.AskedSince question operations}.encard ∧
      (∀ operation : Operation, (operation.perform reached).2.cache =
        if operation.voids reached then ∅
        else operation.asks.elim reached.cache reached.remembering) ∧
      ((ofOptions { cache := false }).run operations).2.cachedEntries = 0 := by
  intro remembering reached
  refine ⟨?_, fun operation => ?_, ?_⟩
  · rw [cachedEntries_eq_encard]
    congr 1
    ext question
    have asked : question ∈ reached.cache.keys ↔
        question ∈ remembering.cache.keys ∧ remembering.Spares operations ∨
          remembering.AskedSince question operations := mem_keys_run rfl operations question
    have new : question ∉ remembering.cache.keys := List.not_mem_nil
    exact asked.trans (or_iff_right fun held => new held.1)
  · have remembers : reached.options.cache = true := by
      rw [run_options]
      rfl
    rw [perform_cache, if_pos remembers]
  · rw [cachedEntries, run_forgets rfl rfl]
    rfl

end ScopeCascade.Cascade
