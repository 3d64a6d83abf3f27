import ScopeCascade.Proofs.Cascade.Numbering

/-! What is done with a bundle as a whole is what would be done step by step: its records are
registered like single ones, and a bundle is replaced as if it were removed and registered again. -/
namespace ScopeCascade

/-- The errors of the specs with malformed selectors. -/
def rejections (specs : List RecordSpec) : List BundleError :=
  specs.filterMap fun spec =>
    match spec.compile with
    | .ok _ => none
    | .error error => some error

theorem rejections_cons (spec : RecordSpec) (rest : List RecordSpec) :
    rejections (spec :: rest) = rejections [spec] ++ rejections rest := by
  rw [rejections, ← List.singleton_append, List.filterMap_append]
  rfl

/-- Every spec is either accepted or rejected. -/
theorem length_compileAll_add_length_rejections (specs : List RecordSpec) :
    (compileAll specs).length + (rejections specs).length = specs.length := by
  induction specs with
  | nil => rfl
  | cons spec rest ih =>
    have one : spec.compile.toOption.toList.length + (rejections [spec]).length = 1 := by
      rw [rejections, List.filterMap_cons]
      cases spec.compile <;> rfl
    rw [compileAll_cons, rejections_cons, List.length_append, List.length_append, List.length_cons]
    omega

namespace Cascade

theorem compileBundle_errors (bundle : Bundle) :
    (compileBundle bundle).2 = rejections (RecordSpec.ofBundle bundle) := by
  rw [compileBundle, rejections]
  exact List.filterMap_map

/-- The errors that an answer reports. -/
def Answer.errors : Answer → List BundleError
  | .registered (.error error) => [error]
  | .report result => result.rejected
  | _ => []

theorem run_register_errors (cascade : Cascade) (specs : List RecordSpec) :
    (cascade.run (specs.map .register)).1.flatMap Answer.errors = rejections specs := by
  induction specs generalizing cascade with
  | nil => rfl
  | cons spec rest ih =>
    have first : (Operation.perform (.register spec) cascade).1.errors = rejections [spec] := by
      rw [Operation.perform, register, rejections, List.filterMap_cons]
      cases spec.compile <;> rfl
    rw [List.map_cons, run_cons, List.flatMap_cons, ih, first, ← rejections_cons]

theorem accepted_register (specs : List RecordSpec) :
    accepted (specs.map .register) = compileAll specs := by
  rw [accepted_eq_compileAll, List.flatMap_map]
  exact congrArg compileAll (List.flatMap_singleton' specs)

theorem pushAll_bare (cascade : Cascade) (records : List CompiledRecord) :
    (cascade.pushAll records).bare =
      { records := cascade.bare.records ++ numbered cascade.bare.nextOrder records
        nextOrder := cascade.bare.nextOrder + records.length } :=
  congrArg bare (pushAll_eq cascade records)

/-- A batch leaves what single registrations leave. -/
theorem registerBundle_bare (cascade : Cascade) (bundle : Bundle) :
    (cascade.registerBundle bundle).2.bare =
      (cascade.run ((RecordSpec.ofBundle bundle).map .register)).2.bare := by
  rw [run_register_bare, ← compileBundle_records]
  exact pushAll_bare cascade (compileBundle bundle).1

/-- A batch reports what single registrations answer. -/
theorem registerBundle_report (cascade : Cascade) (bundle : Bundle) :
    let answers := (cascade.run ((RecordSpec.ofBundle bundle).map .register)).1
    (cascade.registerBundle bundle).1 =
      ⟨answers.flatMap Answer.ids, answers.flatMap Answer.errors⟩ := by
  dsimp only
  rw [run_ids, accepted_register, run_register_errors, ← compileBundle_errors,
    ← compileBundle_records]
  rfl

theorem length_registerBundle (cascade : Cascade) (bundle : Bundle) :
    (cascade.registerBundle bundle).1.registered.length +
        (cascade.registerBundle bundle).1.rejected.length =
      bundle.preferences.length + bundle.items.length := by
  rw [registerBundle_report]
  dsimp only
  rw [run_ids, accepted_register, run_register_errors, nextIds, List.length_range',
    length_compileAll_add_length_rejections, RecordSpec.ofBundle, List.length_append,
    List.length_map, List.length_map]

/-- A replacement leaves what removal and registration leave. -/
theorem replaceBundle_bare (cascade : Cascade) (bundle : Bundle) :
    (cascade.replaceBundle bundle).2.bare =
      ((cascade.unregisterBundle bundle.uuid).2.registerBundle bundle).2.bare := by
  change ((cascade.dropBundle bundle.uuid).pushAll _).bare =
    ((cascade.unregisterBundle bundle.uuid).2.pushAll _).bare
  rw [pushAll_bare, pushAll_bare, unregisterBundle_bare]

/-- A replacement reports what registration after removal does: removal changes no number. -/
theorem replaceBundle_report (cascade : Cascade) (bundle : Bundle) :
    (cascade.replaceBundle bundle).1 =
      ((cascade.unregisterBundle bundle.uuid).2.registerBundle bundle).1 := by
  have ids := congrArg (List.range' · (compileBundle bundle).1.length)
    (nextOrder_perform (.unregisterBundle bundle.uuid) cascade)
  exact congrArg (RegisterReport.mk · (compileBundle bundle).2) ids.symm

/-- A bundle is registered as its records would be, one by one: the preferences, then the items. The
report lists the numbers of those that are accepted and the errors of the others. A bundle is
replaced as if its records were removed and it were registered again. Whatever is asked or done
later has the same answers. -/
theorem bundles_step_by_step (options : CascadeOptions) (operations : List Operation)
    (bundle : Bundle) :
    let reached := ((ofOptions options).run operations).2
    let steps : List Operation :=
      bundle.preferences.map (fun preference => .register (.ofPreference bundle.uuid preference)) ++
        bundle.items.map fun item => .register (.ofItem bundle.uuid item)
    let batch := reached.registerBundle bundle
    let single := reached.run steps
    let replaced := reached.replaceBundle bundle
    let renewed := (reached.unregisterBundle bundle.uuid).2.registerBundle bundle
    (batch.2.records = single.2.records ∧ batch.2.nextOrder = single.2.nextOrder ∧
      batch.1.registered = single.1.flatMap Answer.ids ∧
      batch.1.rejected = single.1.flatMap Answer.errors ∧
      batch.1.registered.length + batch.1.rejected.length =
        bundle.preferences.length + bundle.items.length ∧
      ∀ later, (batch.2.run later).1 = (single.2.run later).1) ∧
    replaced.2.records = renewed.2.records ∧ replaced.2.nextOrder = renewed.2.nextOrder ∧
      replaced.1 = renewed.1 ∧ ∀ later, (replaced.2.run later).1 = (renewed.2.run later).1 := by
  intro reached steps batch single replaced renewed
  have coherent : reached.Coherent := run_coherent options operations
  have listed : (RecordSpec.ofBundle bundle).map Operation.register = steps := by
    rw [RecordSpec.ofBundle, List.map_append, List.map_map, List.map_map]
    rfl
  have sameBatch := reached.registerBundle_bare bundle
  have report := reached.registerBundle_report bundle
  rw [listed] at sameBatch report
  have sameReplaced := reached.replaceBundle_bare bundle
  have removed : (reached.unregisterBundle bundle.uuid).2.Coherent :=
    coherent.unregisterBundle bundle.uuid
  refine ⟨⟨records_eq_of_bare sameBatch, nextOrder_eq_of_bare sameBatch,
    congrArg RegisterReport.registered report, congrArg RegisterReport.rejected report,
    reached.length_registerBundle bundle, fun later => ?_⟩, records_eq_of_bare sameReplaced,
    nextOrder_eq_of_bare sameReplaced, reached.replaceBundle_report bundle, fun later => ?_⟩
  · exact (run_answers (coherent.perform (.registerBundle bundle)) (coherent.run steps) sameBatch
      later).1
  · exact (run_answers (coherent.perform (.replaceBundle bundle))
      (removed.perform (.registerBundle bundle)) sameReplaced later).1

end Cascade

end ScopeCascade
