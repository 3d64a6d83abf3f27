import ScopeCascade.Cascade.Basic

/-! Runs of a cascade: operations in any order, and their answers. What an operation does to the
records is the same for every state: it keeps some of them and adds others at the end. -/
namespace ScopeCascade

/-- Gives records their places, from a first one on. -/
def numbered (first : Nat) (records : List CompiledRecord) : List Record :=
  (records.zipIdx first).map fun (record, order) => { record with order }

@[simp] theorem numbered_nil (first : Nat) : numbered first [] = [] := rfl

@[simp] theorem numbered_cons (first : Nat) (record : CompiledRecord) (rest : List CompiledRecord) :
    numbered first (record :: rest) = { record with order := first } :: numbered (first + 1) rest :=
  rfl

theorem map_numbered (first : Nat) (records : List CompiledRecord) :
    (numbered first records).map Record.toCompiledRecord = records := by
  induction records generalizing first with
  | nil => rfl
  | cons record rest ih => rw [numbered_cons, List.map_cons, ih]

theorem RecordSpec.bundle_of_compile {spec : RecordSpec} {record : CompiledRecord}
    (compiled : spec.compile = .ok record) : record.bundle = spec.bundle :=
  ((spec.compile_eq_ok_iff record).mp compiled).1

/-- The records that the specs with well-formed selectors come to. -/
def compileAll (specs : List RecordSpec) : List CompiledRecord :=
  specs.filterMap fun spec => spec.compile.toOption

theorem mem_compileAll {specs : List RecordSpec} {record : CompiledRecord} :
    record ∈ compileAll specs ↔ ∃ spec ∈ specs, spec.compile = .ok record := by
  have compiled (spec : RecordSpec) :
      spec.compile.toOption = some record ↔ spec.compile = .ok record := by
    cases spec.compile <;> simp [Except.toOption]
  simp only [compileAll, List.mem_filterMap, compiled]

namespace Cascade

theorem compileBundle_records (bundle : Bundle) :
    (compileBundle bundle).1 = compileAll (RecordSpec.ofBundle bundle) := by
  rw [compileBundle, compileAll]
  dsimp only
  rw [List.filterMap_map]
  congr 1
  funext spec
  dsimp only [Function.comp_apply]
  cases spec.compile <;> rfl

theorem bundle_of_compileBundle {bundle : Bundle} {record : CompiledRecord}
    (member : record ∈ (compileBundle bundle).1) : record.bundle = bundle.uuid := by
  rw [compileBundle_records] at member
  obtain ⟨spec, declared, compiled⟩ := mem_compileAll.mp member
  have owner : spec.bundle = bundle.uuid := by
    rcases List.mem_append.mp declared with fromPreference | fromItem
    · obtain ⟨preference, _, rfl⟩ := List.mem_map.mp fromPreference
      rfl
    · obtain ⟨item, _, rfl⟩ := List.mem_map.mp fromItem
      rfl
  exact (RecordSpec.bundle_of_compile compiled).trans owner

/-- Something that is done to a cascade or asked of it. -/
inductive Operation
  | register (spec : RecordSpec)
  | registerBundle (bundle : Bundle)
  | replaceBundle (bundle : Bundle)
  | unregisterBundle (bundle : String)
  | resolve (path : ScopePath) (hasSelection : Bool)
  | resolveUncached (path : ScopePath) (hasSelection : Bool)
  | ranking (path : ScopePath) (hasSelection : Bool)
  | preference (path : ScopePath) (key : SettingKey)
  | preferences (path : ScopePath) (keys : List SettingKey)
  | commandsForScope (path : ScopePath) (hasSelection : Bool)
  | size
  | isEmpty

inductive Answer
  | registered (result : Except BundleError Nat)
  | report (report : RegisterReport)
  | removed (count : Nat)
  | settings (settings : EffectiveSettings)
  | ranking (records : List RankedRecord)
  | setting (setting : Option Setting)
  | items (items : List BundleItem)
  | size (count : Nat)
  | isEmpty (empty : Bool)

namespace Operation

def perform (operation : Operation) (cascade : Cascade) : Answer × Cascade :=
  match operation with
  | register spec =>
    let (result, next) := cascade.register spec
    (.registered result, next)
  | registerBundle bundle =>
    let (report, next) := cascade.registerBundle bundle
    (.report report, next)
  | replaceBundle bundle =>
    let (report, next) := cascade.replaceBundle bundle
    (.report report, next)
  | unregisterBundle bundle =>
    let (count, next) := cascade.unregisterBundle bundle
    (.removed count, next)
  | resolve path hasSelection =>
    let (resolution, next) := cascade.resolve path hasSelection
    (.settings resolution.settings, next)
  | resolveUncached path hasSelection =>
    (.settings (cascade.resolveUncached path hasSelection), cascade)
  | ranking path hasSelection => (.ranking (cascade.ranking path hasSelection), cascade)
  | preference path key =>
    let (setting, next) := cascade.preference? path key
    (.setting setting, next)
  | preferences path keys =>
    let (settings, next) := cascade.preferences path keys
    (.settings settings, next)
  | commandsForScope path hasSelection =>
    let (items, next) := cascade.commandsForScope path hasSelection
    (.items items, next)
  | size => (.size cascade.size, cascade)
  | isEmpty => (.isEmpty cascade.isEmpty, cascade)

/-- Whether the operation leaves a record in the cascade. -/
def keeps : Operation → Record → Bool
  | replaceBundle bundle, record => record.bundle ≠ bundle.uuid
  | unregisterBundle bundle, record => record.bundle ≠ bundle
  | _, _ => true

/-- The records that the operation adds. -/
def adds : Operation → List CompiledRecord
  | register spec => spec.compile.toOption.toList
  | registerBundle bundle => (compileBundle bundle).1
  | replaceBundle bundle => (compileBundle bundle).1
  | _ => []

end Operation

/-- The answers of a run and the cascade it reaches. -/
def run (cascade : Cascade) : List Operation → List Answer × Cascade
  | [] => ([], cascade)
  | operation :: rest =>
    let (answer, next) := operation.perform cascade
    let (answers, last) := next.run rest
    (answer :: answers, last)

theorem run_cons (cascade : Cascade) (operation : Operation) (rest : List Operation) :
    cascade.run (operation :: rest) =
      ((operation.perform cascade).1 :: ((operation.perform cascade).2.run rest).1,
        ((operation.perform cascade).2.run rest).2) := rfl

/-- What every operation keeps, every run keeps. -/
theorem run_keeps (property : Cascade → Prop)
    (step : ∀ operation cascade, property cascade →
      property (Operation.perform operation cascade).2)
    {cascade : Cascade} (initial : property cascade) (operations : List Operation) :
    property (cascade.run operations).2 := by
  induction operations generalizing cascade with
  | nil => exact initial
  | cons operation rest ih => exact ih (step operation cascade initial)

/-- The cascade with an empty memory. -/
def bare (cascade : Cascade) : Cascade :=
  { records := cascade.records, nextOrder := cascade.nextOrder }

theorem records_eq_of_bare {cascade other : Cascade} (same : cascade.bare = other.bare) :
    cascade.records = other.records := by
  change cascade.bare.records = other.bare.records
  rw [same]

theorem nextOrder_eq_of_bare {cascade other : Cascade} (same : cascade.bare = other.bare) :
    cascade.nextOrder = other.nextOrder := by
  change cascade.bare.nextOrder = other.bare.nextOrder
  rw [same]

theorem pushAll_eq (cascade : Cascade) (records : List CompiledRecord) :
    cascade.pushAll records =
      { cascade with
        records := cascade.records ++ numbered cascade.nextOrder records
        nextOrder := cascade.nextOrder + records.length } := by
  induction records generalizing cascade with
  | nil => simp [pushAll]
  | cons record rest ih =>
    change (cascade.push record).pushAll rest = _
    rw [ih, push]
    simp [Nat.add_comm, Nat.add_left_comm]

theorem store_bare (cascade : Cascade) (key : ScopePath × Bool) (resolution : Resolution)
    (generation : Nat) : (cascade.store key resolution generation).2.bare = cascade.bare := by
  unfold store
  split
  · split <;> rfl
  · rfl

theorem resolve_bare (cascade : Cascade) (path : ScopePath) (hasSelection : Bool) :
    (cascade.resolve path hasSelection).2.bare = cascade.bare := by
  unfold resolve
  split
  · rfl
  · dsimp only
    split
    · exact store_bare _ _ _ _
    · rfl

theorem unregisterBundle_bare (cascade : Cascade) (bundle : String) :
    (cascade.unregisterBundle bundle).2.bare = (cascade.dropBundle bundle).bare := by
  unfold unregisterBundle
  dsimp only
  split <;> rfl

/-- All that an operation can do to the records. -/
theorem perform_bare (operation : Operation) (cascade : Cascade) :
    (operation.perform cascade).2.bare =
      { records :=
          cascade.records.filter operation.keeps ++ numbered cascade.nextOrder operation.adds
        nextOrder := cascade.nextOrder + operation.adds.length } := by
  have all : cascade.records.filter (fun _ => true) = cascade.records :=
    List.filter_eq_self.mpr fun _ _ => rfl
  have unchanged {next : Cascade} (same : next.bare = cascade.bare) :
      next.bare = { records := cascade.records.filter (fun _ => true) ++ []
                    nextOrder := cascade.nextOrder } := by
    rw [same, all, List.append_nil, bare]
  cases operation with
  | register spec =>
    rw [Operation.perform, register, Operation.adds]
    cases spec.compile with
    | error error => exact unchanged rfl
    | ok record =>
      change bare _ = { records := cascade.records.filter (fun _ => true) ++ _, nextOrder := _ }
      rw [all]
      rfl
  | registerBundle bundle =>
    change bare _ = { records := cascade.records.filter (fun _ => true) ++ _, nextOrder := _ }
    rw [all]
    exact congrArg bare (pushAll_eq cascade (compileBundle bundle).1)
  | replaceBundle bundle =>
    exact congrArg bare (pushAll_eq (cascade.dropBundle bundle.uuid) (compileBundle bundle).1)
  | unregisterBundle bundle =>
    have dropped : (cascade.dropBundle bundle).bare =
        { records := cascade.records.filter (Operation.unregisterBundle bundle).keeps ++ []
          nextOrder := cascade.nextOrder } := by
      rw [List.append_nil]
      rfl
    exact (unregisterBundle_bare cascade bundle).trans dropped
  | resolve path hasSelection => exact unchanged (resolve_bare cascade path hasSelection)
  | resolveUncached path hasSelection => exact unchanged rfl
  | ranking path hasSelection => exact unchanged rfl
  | preference path key => exact unchanged (resolve_bare cascade path false)
  | preferences path keys => exact unchanged (resolve_bare cascade path false)
  | commandsForScope path hasSelection => exact unchanged (resolve_bare cascade path hasSelection)
  | size => exact unchanged rfl
  | isEmpty => exact unchanged rfl

theorem records_perform (operation : Operation) (cascade : Cascade) :
    (operation.perform cascade).2.records =
      cascade.records.filter operation.keeps ++ numbered cascade.nextOrder operation.adds :=
  congrArg Cascade.records (perform_bare operation cascade)

theorem nextOrder_perform (operation : Operation) (cascade : Cascade) :
    (operation.perform cascade).2.nextOrder = cascade.nextOrder + operation.adds.length :=
  congrArg Cascade.nextOrder (perform_bare operation cascade)

theorem map_records_perform (operation : Operation) (cascade : Cascade) :
    (operation.perform cascade).2.records.map Record.toCompiledRecord =
      (cascade.records.filter operation.keeps).map Record.toCompiledRecord ++ operation.adds := by
  rw [records_perform, List.map_append, map_numbered]

end Cascade

end ScopeCascade
