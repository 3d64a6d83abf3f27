import ScopeCascade.Proofs.Cascade.Ranking
import ScopeCascade.Proofs.Cascade.Renumber

/-! A cascade does not remember how it came about: it answers like one into which only the specs of
its records were registered, one by one. -/
namespace ScopeCascade

theorem numbered_append (first : Nat) (records more : List CompiledRecord) :
    numbered first (records ++ more) =
      numbered first records ++ numbered (first + records.length) more := by
  rw [numbered, List.zipIdx_append, List.map_append]
  rfl

theorem compileAll_append (specs more : List RecordSpec) :
    compileAll (specs ++ more) = compileAll specs ++ compileAll more := List.filterMap_append

theorem compileAll_cons (spec : RecordSpec) (rest : List RecordSpec) :
    compileAll (spec :: rest) = spec.compile.toOption.toList ++ compileAll rest := by
  rw [compileAll, List.filterMap_cons]
  cases spec.compile <;> rfl

theorem map_compile {specs : List RecordSpec} (each : ∀ spec ∈ specs, spec.compile.isOk) :
    specs.map RecordSpec.compile = (compileAll specs).map .ok := by
  induction specs with
  | nil => rfl
  | cons spec rest ih =>
    obtain ⟨first, later⟩ := List.forall_mem_cons.mp each
    rw [List.map_cons, ih later, compileAll_cons]
    cases compiled : spec.compile with
    | error error =>
      rw [compiled] at first
      contradiction
    | ok record => rfl

/-- Records can be chosen by their bundles before or after their selectors are read. -/
theorem compileAll_filter (specs : List RecordSpec) (chosen : String → Bool) :
    compileAll (specs.filter fun spec => spec.compile.isOk && chosen spec.bundle) =
      (compileAll specs).filter fun record => chosen record.bundle := by
  induction specs with
  | nil => rfl
  | cons spec rest ih =>
    rw [List.filter_cons, compileAll_cons, List.filter_append, ← ih]
    cases compiled : spec.compile with
    | error error => rfl
    | ok record =>
      have owner : record.bundle = spec.bundle := RecordSpec.bundle_of_compile compiled
      change compileAll (if chosen spec.bundle then _ else _) = List.filter _ [record] ++ _
      cases kept : chosen spec.bundle with
      | false => simp [owner, kept]
      | true => simp [owner, kept, compileAll_cons, compiled, Except.toOption]

namespace Cascade

namespace Operation

/-- The specs that the operation asks to register. -/
def declares : Operation → List RecordSpec
  | register spec => [spec]
  | registerBundle bundle | replaceBundle bundle => RecordSpec.ofBundle bundle
  | _ => []

/-- Whether the operation removes what a bundle has registered so far. -/
def drops : Operation → String → Bool
  | replaceBundle bundle, uuid => bundle.uuid = uuid
  | unregisterBundle bundle, uuid => bundle = uuid
  | _, _ => false

theorem keeps_eq (operation : Operation) (record : Record) :
    operation.keeps record = !operation.drops record.bundle := by
  cases operation <;> simp [keeps, drops, eq_comm]

theorem adds_eq (operation : Operation) : operation.adds = compileAll operation.declares := by
  cases operation with
  | register spec =>
    rw [adds, declares, compileAll_cons]
    exact (List.append_nil _).symm
  | registerBundle bundle => exact compileBundle_records bundle
  | replaceBundle bundle => exact compileBundle_records bundle
  | _ => rfl

end Operation

/-- The specs with well-formed selectors that were registered and not dropped later. -/
def survivors : List Operation → List RecordSpec
  | [] => []
  | operation :: later =>
    operation.declares.filter (fun spec =>
      spec.compile.isOk && later.all fun next => !next.drops spec.bundle) ++ survivors later

theorem survivors_isOk (operations : List Operation) :
    ∀ spec ∈ survivors operations, spec.compile.isOk := by
  induction operations with
  | nil => simp [survivors]
  | cons operation later ih =>
    intro spec member
    rcases List.mem_append.mp member with declared | survived
    · exact (Bool.and_eq_true_iff.mp (List.mem_filter.mp declared).2).1
    · exact ih spec survived

/-- After a run there are the records from before that no operation drops, and behind them those of
the survivors. -/
theorem run_records (cascade : Cascade) (operations : List Operation) :
    (cascade.run operations).2.records.map Record.toCompiledRecord =
      (cascade.records.map Record.toCompiledRecord).filter
          (fun record => operations.all fun next => !next.drops record.bundle) ++
        compileAll (survivors operations) := by
  induction operations generalizing cascade with
  | nil =>
    change _ = List.filter (fun _ => true) _ ++ []
    rw [List.append_nil, List.filter_eq_self.mpr fun _ _ => rfl]
    rfl
  | cons operation later ih =>
    have kept : operation.keeps =
        (fun record => !operation.drops record.bundle) ∘ Record.toCompiledRecord :=
      funext operation.keeps_eq
    have split : compileAll (survivors (operation :: later)) =
        (compileAll operation.declares).filter
            (fun record => later.all fun next => !next.drops record.bundle) ++
          compileAll (survivors later) := by
      rw [survivors, compileAll_append,
        compileAll_filter _ fun bundle => later.all fun next => !next.drops bundle]
    -- A later operation drops the old records and the new ones by the same test.
    rw [run_cons, ih, map_records_perform, kept, ← List.filter_map, List.filter_append,
      List.filter_filter, operation.adds_eq, split, List.append_assoc]
    simp only [List.all_cons, Bool.and_comm]

theorem run_register_bare (cascade : Cascade) (specs : List RecordSpec) :
    (cascade.run (specs.map .register)).2.bare =
      { records := cascade.records ++ numbered cascade.nextOrder (compileAll specs)
        nextOrder := cascade.nextOrder + (compileAll specs).length } := by
  induction specs generalizing cascade with
  | nil =>
    change cascade.bare = { records := cascade.records ++ [], nextOrder := cascade.nextOrder }
    rw [List.append_nil, bare]
  | cons spec rest ih =>
    have all : cascade.records.filter (Operation.register spec).keeps = cascade.records :=
      List.filter_eq_self.mpr fun _ _ => rfl
    rw [List.map_cons, run_cons, ih, records_perform, nextOrder_perform, all, compileAll_cons,
      numbered_append, List.length_append, List.append_assoc, Nat.add_assoc]
    rfl

/-- The number of the record at a place; behind all records, the numbers that come next. -/
def numberAt (cascade : Cascade) (place : Nat) : Nat :=
  (cascade.records[place]?.map Record.order).getD
    (cascade.nextOrder + (place - cascade.records.length))

theorem numberAt_of_lt {cascade : Cascade} {place : Nat} (within : place < cascade.records.length) :
    cascade.numberAt place = cascade.records[place].order := by
  rw [numberAt, List.getElem?_eq_getElem within]
  rfl

theorem numberAt_length_add (cascade : Cascade) (count : Nat) :
    cascade.numberAt (cascade.records.length + count) = cascade.nextOrder + count := by
  rw [numberAt, List.getElem?_eq_none (Nat.le_add_right _ _), Nat.add_sub_cancel_left]
  rfl

theorem Ordered.numberAt_increasing {cascade : Cascade} (ordered : cascade.Ordered) :
    StrictMono cascade.numberAt := by
  intro place later before
  by_cases within : later < cascade.records.length
  · rw [numberAt_of_lt within, numberAt_of_lt (before.trans within)]
    exact List.pairwise_iff_getElem.mp ordered.increasing place later _ within before
  · obtain ⟨count, rfl⟩ := Nat.exists_eq_add_of_le (Nat.le_of_not_lt within)
    rw [numberAt_length_add]
    by_cases held : place < cascade.records.length
    · rw [numberAt_of_lt held]
      have bound := ordered.bounded _ (List.getElem_mem held)
      omega
    · obtain ⟨earlier, rfl⟩ := Nat.exists_eq_add_of_le (Nat.le_of_not_lt held)
      rw [numberAt_length_add]
      omega

theorem renumber_numbered (records : List Record) (first : Nat) (number : Nat → Nat)
    (numbers : ∀ place (within : place < records.length),
      number (first + place) = records[place].order) :
    (numbered first (records.map Record.toCompiledRecord)).map (Record.renumber number) =
      records := by
  induction records generalizing first with
  | nil => rfl
  | cons record rest ih =>
    have later : ∀ place (within : place < rest.length),
        number (first + 1 + place) = rest[place].order := by
      intro place within
      have next := numbers (place + 1) (Nat.succ_lt_succ within)
      rw [Nat.add_assoc, Nat.add_comm 1 place]
      exact next
    rw [List.map_cons, numbered_cons, List.map_cons, ih (first + 1) later]
    exact congrArg (fun order => { record with order } :: rest) (numbers 0 (Nat.succ_pos _))

/-- A cascade is one that registers the same records from nothing, with other numbers. -/
theorem Ordered.renumbered {cascade fresh : Cascade} (ordered : cascade.Ordered)
    (rebuilt : fresh.bare = {
      records := numbered 0 (cascade.records.map Record.toCompiledRecord)
      nextOrder := cascade.records.length }) :
    Renumbered cascade.numberAt fresh cascade where
  increasing := ordered.numberAt_increasing
  records := by
    have records := congrArg Cascade.records rebuilt
    dsimp only [bare] at records
    rw [records, renumber_numbered]
    intro place within
    rw [Nat.zero_add, numberAt_of_lt within]
  following := by
    have nextOrder := congrArg Cascade.nextOrder rebuilt
    dsimp only [bare] at nextOrder
    rw [nextOrder]
    exact cascade.numberAt_length_add

theorem detour_bare (cascade : Cascade) {bundle : Bundle}
    (absent : ∀ record ∈ cascade.records, record.bundle ≠ bundle.uuid) :
    ((cascade.registerBundle bundle).2.unregisterBundle bundle.uuid).2.bare =
      { records := cascade.records
        nextOrder := cascade.nextOrder + (compileBundle bundle).1.length } := by
  have registered := pushAll_eq cascade (compileBundle bundle).1
  have removed := perform_bare (.unregisterBundle bundle.uuid) (cascade.registerBundle bundle).2
  have records : (cascade.registerBundle bundle).2.records =
      cascade.records ++ numbered cascade.nextOrder (compileBundle bundle).1 :=
    congrArg Cascade.records registered
  have nextOrder : (cascade.registerBundle bundle).2.nextOrder =
      cascade.nextOrder + (compileBundle bundle).1.length := congrArg Cascade.nextOrder registered
  have kept : cascade.records.filter (Operation.unregisterBundle bundle.uuid).keeps =
      cascade.records := by
    rw [List.filter_eq_self]
    intro record member
    exact decide_eq_true (absent record member)
  have dropped : (numbered cascade.nextOrder (compileBundle bundle).1).filter
      (Operation.unregisterBundle bundle.uuid).keeps = [] := by
    rw [List.filter_eq_nil_iff]
    intro record member
    have compiled : record.toCompiledRecord ∈ (compileBundle bundle).1 := by
      rw [← map_numbered cascade.nextOrder (compileBundle bundle).1]
      exact List.mem_map_of_mem member
    have owner : record.bundle = bundle.uuid := bundle_of_compileBundle compiled
    simp [Operation.keeps, owner]
  have addsNone : (Operation.unregisterBundle bundle.uuid).adds = [] := rfl
  rw [records, nextOrder, List.filter_append, kept, dropped, addsNone, numbered_nil,
    List.append_nil, List.append_nil] at removed
  exact removed

/-- Registering a bundle and removing it again only leaves a gap in the numbers. -/
theorem Ordered.detour {cascade : Cascade} (ordered : cascade.Ordered) {bundle : Bundle}
    (absent : ∀ record ∈ cascade.records, record.bundle ≠ bundle.uuid) :
    Renumbered
      (fun order =>
        if order < cascade.nextOrder then order else order + (compileBundle bundle).1.length)
      cascade ((cascade.registerBundle bundle).2.unregisterBundle bundle.uuid).2 where
  increasing := by
    intro older newer less
    dsimp only
    split <;> split <;> omega
  records := by
    have records := congrArg Cascade.records (cascade.detour_bare absent)
    have same : cascade.records.map (Record.renumber fun order =>
        if order < cascade.nextOrder then order else order + (compileBundle bundle).1.length) =
          cascade.records := by
      refine (List.map_congr_left fun record member => ?_).trans (List.map_id _)
      rw [Record.renumber, if_pos (ordered.bounded record member)]
      rfl
    exact records.trans same.symm
  following := by
    intro count
    have nextOrder := congrArg Cascade.nextOrder (cascade.detour_bare absent)
    dsimp only [bare] at nextOrder
    rw [nextOrder, if_neg (by omega)]
    omega

/-- Every cascade that a run reaches answers like one into which only the surviving specs were
registered, up to numbers that stand in the same order; and a bundle that came and went again leaves
nothing behind. -/
theorem history_independent (options rebuilt : CascadeOptions) (operations : List Operation) :
    let reached := ((ofOptions options).run operations).2
    let fresh := ((ofOptions rebuilt).run ((survivors operations).map .register)).2
    reached.records.map (fun record => .ok record.toCompiledRecord) =
        (survivors operations).map RecordSpec.compile ∧
      (∃ number, StrictMono number ∧
        (∀ path hasSelection,
          (reached.resolve path hasSelection).1.settings =
              (fresh.resolve path hasSelection).1.settings ∧
            (reached.commandsForScope path hasSelection).1 =
              (fresh.commandsForScope path hasSelection).1 ∧
            reached.ranking path hasSelection =
              (fresh.ranking path hasSelection).map (RankedRecord.renumber number)) ∧
        ∀ later, (reached.run later).1 = (fresh.run later).1.map (Answer.renumber number)) ∧
      ∀ bundle : Bundle, (∀ record ∈ reached.records, record.bundle ≠ bundle.uuid) →
        ∃ number, StrictMono number ∧ (∀ order < reached.nextOrder, number order = order) ∧
          ∀ later,
            (((reached.registerBundle bundle).2.unregisterBundle bundle.uuid).2.run later).1 =
            (reached.run later).1.map (Answer.renumber number) := by
  intro reached fresh
  have ordered : reached.Ordered := run_ordered options operations
  have coherent : reached.Coherent := run_coherent options operations
  have coherentFresh : fresh.Coherent := run_coherent rebuilt _
  have records : reached.records.map Record.toCompiledRecord =
      compileAll (survivors operations) := run_records (ofOptions options) operations
  have renumbered : Renumbered reached.numberAt fresh reached := by
    apply ordered.renumbered
    have count : reached.records.length = (compileAll (survivors operations)).length := by
      rw [← records, List.length_map]
    rw [records, count, run_register_bare]
    simp only [ofOptions, List.nil_append, Nat.zero_add]
  refine ⟨?_, ⟨reached.numberAt, renumbered.increasing, ?_, ?_⟩, ?_⟩
  · rw [map_compile (survivors_isOk operations), ← records, List.map_map]
    rfl
  · intro path hasSelection
    have resolved := renumbered.resolve coherentFresh coherent path hasSelection
    exact ⟨resolved, congrArg EffectiveSettings.commands resolved,
      renumbered.ranking path hasSelection⟩
  · exact renumbered.run_answers coherentFresh coherent
  · intro bundle absent
    have detour := ordered.detour absent
    have coherentDetour :
        ((reached.registerBundle bundle).2.unregisterBundle bundle.uuid).2.Coherent :=
      (coherent.perform (.registerBundle bundle)).unregisterBundle bundle.uuid
    refine ⟨_, detour.increasing, ?_, detour.run_answers coherent coherentDetour⟩
    intro order existing
    exact if_pos existing

end Cascade

end ScopeCascade
