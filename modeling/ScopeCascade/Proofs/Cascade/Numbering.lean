import ScopeCascade.Proofs.Cascade.History

/-! The numbers of records. Over a whole run they are handed out from 0 on without a gap, one for
each record that is accepted, and what a run leaves of the records is a part of all that it
accepted, in order and with these numbers. So a number never comes to stand for another record. -/
namespace ScopeCascade.Cascade

/-- The numbers that an answer hands out. -/
def Answer.ids : Answer → List Nat
  | .registered (.ok id) => [id]
  | .report result => result.registered
  | _ => []

/-- An operation hands out one number for each record that it adds. -/
theorem perform_ids (operation : Operation) (cascade : Cascade) :
    (operation.perform cascade).1.ids = cascade.nextIds operation.adds.length := by
  cases operation with
  | register spec =>
    rw [Operation.perform, register, Operation.adds]
    cases spec.compile <;> rfl
  | _ => rfl

/-- The records that a run accepts. -/
def accepted (operations : List Operation) : List CompiledRecord :=
  operations.flatMap Operation.adds

theorem accepted_cons (operation : Operation) (rest : List Operation) :
    accepted (operation :: rest) = operation.adds ++ accepted rest := rfl

theorem accepted_eq_compileAll (operations : List Operation) :
    accepted operations = compileAll (operations.flatMap Operation.declares) := by
  induction operations with
  | nil => rfl
  | cons operation rest ih =>
    rw [accepted_cons, ih, operation.adds_eq, List.flatMap_cons, compileAll_append]

theorem run_nextOrder (cascade : Cascade) (operations : List Operation) :
    (cascade.run operations).2.nextOrder = cascade.nextOrder + (accepted operations).length := by
  induction operations generalizing cascade with
  | nil => rfl
  | cons operation rest ih =>
    rw [run_cons, ih, nextOrder_perform, accepted_cons, List.length_append, Nat.add_assoc]

theorem run_ids (cascade : Cascade) (operations : List Operation) :
    (cascade.run operations).1.flatMap Answer.ids =
      cascade.nextIds (accepted operations).length := by
  induction operations generalizing cascade with
  | nil => rfl
  | cons operation rest ih =>
    rw [run_cons, List.flatMap_cons, ih, perform_ids, accepted_cons, List.length_append, nextIds,
      nextIds, nextIds, nextOrder_perform, List.range'_append_1]

/-- Of the records from before and those that a run accepts some are left, in their order. -/
theorem run_records_sublist (cascade : Cascade) (operations : List Operation) :
    (cascade.run operations).2.records.Sublist
      (cascade.records ++ numbered cascade.nextOrder (accepted operations)) := by
  induction operations generalizing cascade with
  | nil => exact List.sublist_append_left _ _
  | cons operation rest ih =>
    rw [run_cons, accepted_cons, numbered_append, ← nextOrder_perform, ← List.append_assoc]
    refine (ih _).trans (List.Sublist.append_right ?_ _)
    rw [records_perform]
    exact List.filter_sublist.append_right _

theorem length_compileAll (specs : List RecordSpec) :
    (compileAll specs).length = specs.countP fun spec => spec.compile.isOk := by
  have same : (fun spec : RecordSpec => spec.compile.toOption.isSome) =
      fun spec => spec.compile.isOk := by
    funext spec
    cases spec.compile <;> rfl
  rw [compileAll, List.length_filterMap_eq_countP, same]

/-- Records with numbers from before a run are records from before it. -/
theorem Ordered.run_filter_sublist {cascade : Cascade} (ordered : cascade.Ordered)
    (operations : List Operation) :
    ((cascade.run operations).2.records.filter (·.order < cascade.nextOrder)).Sublist
      cascade.records := by
  have kept : cascade.records.filter (·.order < cascade.nextOrder) = cascade.records :=
    List.filter_eq_self.mpr fun record member => decide_eq_true (ordered.bounded record member)
  have fresh : (numbered cascade.nextOrder (accepted operations)).filter
      (·.order < cascade.nextOrder) = [] := by
    refine List.filter_eq_nil_iff.mpr fun record member => ?_
    have bounds := mem_numbered_bounds member
    simpa using bounds.1
  have left := (cascade.run_records_sublist operations).filter (·.order < cascade.nextOrder)
  rwa [List.filter_append, kept, fresh, List.append_nil] at left

/-- Read in the order of the answers, the numbers of a run are those from 0 on, one for each
declared record whose selector parses. The records that are left have the numbers of their places
among these, so the numbers increase and are all below the next one; and a number that was handed
out is later that of the same record or of none. -/
theorem numbers_without_gaps (options : CascadeOptions) (operations : List Operation) :
    let answers := ((ofOptions options).run operations).1
    let reached := ((ofOptions options).run operations).2
    let declared := operations.flatMap Operation.declares
    answers.flatMap Answer.ids = List.range reached.nextOrder ∧
      reached.nextOrder = declared.countP (fun spec => spec.compile.isOk) ∧
      reached.records.Sublist (numbered 0 (compileAll declared)) ∧
      reached.records.Pairwise (fun older newer => older.order < newer.order) ∧
      (∀ record ∈ reached.records, record.order < reached.nextOrder) ∧
      ∀ later, ((reached.run later).2.records.filter (·.order < reached.nextOrder)).Sublist
        reached.records := by
  intro answers reached declared
  have ordered : reached.Ordered := run_ordered options operations
  have nextOrder : reached.nextOrder = (accepted operations).length :=
    (run_nextOrder (ofOptions options) operations).trans (Nat.zero_add _)
  refine ⟨?_, ?_, ?_, ordered.increasing, ordered.bounded, ordered.run_filter_sublist⟩
  · rw [nextOrder, List.range_eq_range']
    exact run_ids (ofOptions options) operations
  · rw [nextOrder, accepted_eq_compileAll, length_compileAll]
  · rw [← accepted_eq_compileAll]
    exact run_records_sublist (ofOptions options) operations

end ScopeCascade.Cascade
