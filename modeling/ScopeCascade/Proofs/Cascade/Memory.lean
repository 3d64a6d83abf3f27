import ScopeCascade.Proofs.Cascade.Operation

/-! The memory of resolutions is invisible: whatever is remembered is what the records come to at
present, so no answer depends on it. -/
namespace ScopeCascade.Cascade

/-- Every remembered resolution is what the records come to. -/
def Coherent (cascade : Cascade) : Prop :=
  ∀ path hasSelection resolution, cascade.cache.get? (path, hasSelection) = some resolution →
    resolution.settings = cascade.resolveUncached path hasSelection

theorem coherent_of_forgotten {cascade : Cascade} (forgotten : cascade.cache = ∅) :
    cascade.Coherent := by
  intro path hasSelection resolution known
  rw [forgotten] at known
  contradiction

theorem coherent_ofOptions (options : CascadeOptions) : (ofOptions options).Coherent :=
  coherent_of_forgotten rfl

theorem Coherent.of_records {cascade next : Cascade} (coherent : cascade.Coherent)
    (cache : next.cache = cascade.cache) (records : next.records = cascade.records) :
    next.Coherent := by
  intro path hasSelection resolution known
  rw [cache] at known
  rw [resolveUncached, records]
  exact coherent path hasSelection resolution known

/-- A resolution of the present generation may be remembered; of an older one nothing needs to be
known, since it is not. -/
theorem Coherent.store {cascade : Cascade} (coherent : cascade.Coherent) {path : ScopePath}
    {hasSelection : Bool} {resolution : Resolution} {generation : Nat}
    (current : cascade.generation = generation →
      resolution.settings = cascade.resolveUncached path hasSelection) :
    (cascade.store (path, hasSelection) resolution generation).2.Coherent := by
  unfold Cascade.store
  split
  · rename_i same
    split
    · exact coherent
    · intro asked selected found known
      dsimp only at known
      rw [InsertionMap.get?_insert] at known
      split at known
      · rename_i key
        cases key
        cases known
        exact current same
      · exact coherent asked selected found known
  · exact coherent

theorem Coherent.store_settings {cascade : Cascade} (coherent : cascade.Coherent) {path : ScopePath}
    {hasSelection : Bool} {resolution : Resolution} {generation : Nat}
    (right : resolution.settings = cascade.resolveUncached path hasSelection) :
    (cascade.store (path, hasSelection) resolution generation).1.settings =
      cascade.resolveUncached path hasSelection := by
  unfold Cascade.store
  split
  · split
    · rename_i held known
      exact coherent path hasSelection held known
    · exact right
  · exact right

theorem Coherent.resolve {cascade : Cascade} (coherent : cascade.Coherent) (path : ScopePath)
    (hasSelection : Bool) :
    (cascade.resolve path hasSelection).1.settings = cascade.resolveUncached path hasSelection ∧
      (cascade.resolve path hasSelection).2.Coherent := by
  have counted : Coherent { cascade with nextSerial := cascade.nextSerial + 1 } :=
    coherent.of_records rfl rfl
  unfold Cascade.resolve
  split
  · rename_i known recalled
    exact ⟨coherent path hasSelection known recalled, coherent⟩
  · dsimp only
    split
    · exact ⟨counted.store_settings rfl, counted.store fun _ => rfl⟩
    · exact ⟨rfl, counted⟩

theorem Coherent.unregisterBundle {cascade : Cascade} (coherent : cascade.Coherent)
    (bundle : String) : (cascade.unregisterBundle bundle).2.Coherent := by
  unfold Cascade.unregisterBundle
  dsimp only
  split
  · exact coherent_of_forgotten rfl
  · -- Nothing was removed, so the memory may stay.
    rename_i noneRemoved
    have sublist : (cascade.dropBundle bundle).records.Sublist cascade.records :=
      List.filter_sublist
    have length := sublist.length_le
    exact coherent.of_records rfl (sublist.eq_of_length (by omega))

theorem Coherent.perform {cascade : Cascade} (coherent : cascade.Coherent)
    (operation : Operation) : (operation.perform cascade).2.Coherent := by
  cases operation with
  | register spec =>
    rw [Operation.perform, register]
    cases spec.compile with
    | error error => exact coherent
    | ok record => exact coherent_of_forgotten rfl
  | registerBundle bundle => exact coherent_of_forgotten rfl
  | replaceBundle bundle => exact coherent_of_forgotten rfl
  | unregisterBundle bundle => exact coherent.unregisterBundle bundle
  | resolve path hasSelection => exact (coherent.resolve path hasSelection).2
  | resolveUncached path hasSelection => exact coherent
  | ranking path hasSelection => exact coherent
  | preference path key => exact (coherent.resolve path false).2
  | preferences path keys => exact (coherent.resolve path false).2
  | commandsForScope path hasSelection => exact (coherent.resolve path hasSelection).2
  | size => exact coherent
  | isEmpty => exact coherent

/-- A cascade answers as it would with an empty memory. -/
theorem Coherent.perform_answer {cascade : Cascade} (coherent : cascade.Coherent)
    (operation : Operation) :
    (operation.perform cascade).1 = (operation.perform cascade.bare).1 := by
  have forgotten : cascade.bare.Coherent := coherent_of_forgotten rfl
  have resolved (path : ScopePath) (hasSelection : Bool) :
      (cascade.resolve path hasSelection).1.settings =
        (cascade.bare.resolve path hasSelection).1.settings :=
    (coherent.resolve path hasSelection).1.trans (forgotten.resolve path hasSelection).1.symm
  cases operation with
  | register spec =>
    rw [Operation.perform, Operation.perform, register, register]
    cases spec.compile <;> rfl
  | registerBundle bundle => rfl
  | replaceBundle bundle => rfl
  | unregisterBundle bundle => rfl
  | resolve path hasSelection => exact congrArg Answer.settings (resolved path hasSelection)
  | resolveUncached path hasSelection => rfl
  | ranking path hasSelection => rfl
  | preference path key =>
    exact congrArg (fun settings => Answer.setting (settings.get? key)) (resolved path false)
  | preferences path keys =>
    exact congrArg (fun settings => Answer.settings (settings.select keys)) (resolved path false)
  | commandsForScope path hasSelection =>
    exact congrArg (fun settings => Answer.items settings.commands) (resolved path hasSelection)
  | size => rfl
  | isEmpty => rfl

/-- Two cascades with the same records answer alike, whatever each of them remembers. -/
theorem run_answers {left right : Cascade} (coherentLeft : left.Coherent)
    (coherentRight : right.Coherent) (same : left.bare = right.bare) (operations : List Operation) :
    (left.run operations).1 = (right.run operations).1 ∧
      (left.run operations).2.bare = (right.run operations).2.bare := by
  induction operations generalizing left right with
  | nil => exact ⟨rfl, same⟩
  | cons operation rest ih =>
    have answer : (operation.perform left).1 = (operation.perform right).1 := by
      rw [coherentLeft.perform_answer, coherentRight.perform_answer, same]
    have next : (operation.perform left).2.bare = (operation.perform right).2.bare := by
      rw [perform_bare, perform_bare, records_eq_of_bare same, nextOrder_eq_of_bare same]
    obtain ⟨answers, last⟩ :=
      ih (coherentLeft.perform operation) (coherentRight.perform operation) next
    rw [run_cons, run_cons, answer, answers]
    exact ⟨rfl, last⟩

theorem Coherent.run {cascade : Cascade} (coherent : cascade.Coherent)
    (operations : List Operation) : (cascade.run operations).2.Coherent :=
  run_keeps Coherent (fun operation _ coherent => coherent.perform operation) coherent operations

theorem run_coherent (options : CascadeOptions) (operations : List Operation) :
    ((ofOptions options).run operations).2.Coherent := (coherent_ofOptions options).run operations

/-- With or without a memory, every run has the same answers, and a resolution is always what the
records come to. -/
theorem memory_invisible (operations : List Operation) :
    ((ofOptions { cache := true }).run operations).1 =
        ((ofOptions { cache := false }).run operations).1 ∧
      ∀ options path hasSelection,
        (((ofOptions options).run operations).2.resolve path hasSelection).1.settings =
          ((ofOptions options).run operations).2.resolveUncached path hasSelection := by
  constructor
  · exact (run_answers (coherent_ofOptions { cache := true })
      (coherent_ofOptions { cache := false }) rfl operations).1
  · intro options path hasSelection
    exact ((run_coherent options operations).resolve path hasSelection).1

end ScopeCascade.Cascade
