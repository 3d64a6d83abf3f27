import Mathlib.Order.Monotone.Basic
import ScopeCascade.Proofs.Cascade.Memory

/-! Of the numbers of records only the order matters: two cascades whose records differ in nothing
but their numbers, which stand in the same order, answer every run alike, again up to numbers. -/
namespace ScopeCascade

variable {number : Nat → Nat}

def Record.renumber (number : Nat → Nat) (record : Record) : Record :=
  { record with order := number record.order }

def RankedRecord.renumber (number : Nat → Nat) (ranked : RankedRecord) : RankedRecord :=
  { ranked with record := ranked.record.renumber number }

theorem compare_increasing (increasing : StrictMono number) (a b : Nat) :
    compare (number a) (number b) = compare a b := by
  rcases Nat.lt_trichotomy a b with less | rfl | greater
  · rw [Nat.compare_eq_lt.mpr less, Nat.compare_eq_lt.mpr (increasing less)]
  · rw [Nat.compare_eq_eq.mpr rfl, Nat.compare_eq_eq.mpr rfl]
  · rw [Nat.compare_eq_gt.mpr greater, Nat.compare_eq_gt.mpr (increasing greater)]

theorem RankedRecord.compare_renumber (increasing : StrictMono number) (a b : RankedRecord) :
    (a.renumber number).compare (b.renumber number) = a.compare b := by
  change (Ord.compare a.specificity b.specificity).then
      (Ord.compare (number a.record.order) (number b.record.order)) =
    (Ord.compare a.specificity b.specificity).then (Ord.compare a.record.order b.record.order)
  rw [compare_increasing increasing]

theorem rankRecords_renumber (increasing : StrictMono number) (records : List Record)
    (path : ScopePath) (hasSelection : Bool) :
    rankRecords (records.map (Record.renumber number)) path hasSelection =
      (rankRecords records path hasSelection).map (RankedRecord.renumber number) := by
  have applying : (records.map (Record.renumber number)).filterMap
        (RankedRecord.ofRecord? path hasSelection) =
      (records.filterMap (RankedRecord.ofRecord? path hasSelection)).map
        (RankedRecord.renumber number) := by
    rw [List.filterMap_map, List.map_filterMap]
    congr 1
    funext record
    change (record.rank? path hasSelection).map _ =
      ((record.rank? path hasSelection).map _).map _
    rw [Option.map_map]
    rfl
  rw [rankRecords, applying, rankRecords]
  refine (List.map_mergeSort ?_).symm
  intro a _ b _
  rw [RankedRecord.compare_renumber increasing]

theorem resolveRecords_renumber (increasing : StrictMono number) (records : List Record)
    (path : ScopePath) (hasSelection : Bool) :
    resolveRecords (records.map (Record.renumber number)) path hasSelection =
      resolveRecords records path hasSelection := by
  rw [resolveRecords, rankRecords_renumber increasing, List.map_map]
  rfl

theorem numbered_renumber {first start : Nat}
    (following : ∀ count, number (first + count) = start + count) (records : List CompiledRecord) :
    numbered start records = (numbered first records).map (Record.renumber number) := by
  induction records generalizing first start with
  | nil => rfl
  | cons record rest ih =>
    have later : ∀ count, number (first + 1 + count) = start + 1 + count := by
      intro count
      rw [Nat.add_assoc, following, Nat.add_assoc]
    rw [numbered_cons, numbered_cons, List.map_cons, ← ih later, Record.renumber]
    exact congrArg (fun order => { record with order } :: numbered (start + 1) rest)
      (following 0).symm

namespace Cascade

/-- An answer with other numbers in it. -/
def Answer.renumber (number : Nat → Nat) : Answer → Answer
  | .registered result => .registered (result.map number)
  | .report result => .report { result with registered := result.registered.map number }
  | .ranking records => .ranking (records.map (RankedRecord.renumber number))
  | answer => answer

/-- The records of the second cascade are those of the first with other numbers, and so are those
that will be registered. -/
structure Renumbered (number : Nat → Nat) (left right : Cascade) : Prop where
  increasing : StrictMono number
  records : right.records = left.records.map (Record.renumber number)
  following : ∀ count, number (left.nextOrder + count) = right.nextOrder + count

namespace Renumbered

variable {left right : Cascade}

theorem nextIds (renumbered : Renumbered number left right) (count : Nat) :
    right.nextIds count = (left.nextIds count).map number := by
  rw [Cascade.nextIds, Cascade.nextIds, List.range'_eq_map_range, List.range'_eq_map_range,
    List.map_map]
  apply List.map_congr_left
  intro place _
  exact (renumbered.following place).symm

theorem filter_records (renumbered : Renumbered number left right) (operation : Operation) :
    right.records.filter operation.keeps =
      (left.records.filter operation.keeps).map (Record.renumber number) := by
  have same : operation.keeps ∘ Record.renumber number = operation.keeps := by
    funext record
    cases operation <;> rfl
  rw [renumbered.records, List.filter_map, same]

theorem perform (renumbered : Renumbered number left right) (operation : Operation) :
    Renumbered number (operation.perform left).2 (operation.perform right).2 := by
  refine ⟨renumbered.increasing, ?_, ?_⟩
  · rw [records_perform, records_perform, renumbered.filter_records,
      numbered_renumber renumbered.following, List.map_append]
  · intro count
    rw [nextOrder_perform, nextOrder_perform, Nat.add_assoc, renumbered.following, Nat.add_assoc]

theorem resolveUncached (renumbered : Renumbered number left right) (path : ScopePath)
    (hasSelection : Bool) :
    right.resolveUncached path hasSelection = left.resolveUncached path hasSelection := by
  rw [Cascade.resolveUncached, renumbered.records, resolveRecords_renumber renumbered.increasing]
  rfl

theorem ranking (renumbered : Renumbered number left right) (path : ScopePath)
    (hasSelection : Bool) :
    right.ranking path hasSelection =
      (left.ranking path hasSelection).map (RankedRecord.renumber number) := by
  rw [Cascade.ranking, renumbered.records, rankRecords_renumber renumbered.increasing]
  rfl

theorem resolve (renumbered : Renumbered number left right) (coherentLeft : left.Coherent)
    (coherentRight : right.Coherent) (path : ScopePath) (hasSelection : Bool) :
    (right.resolve path hasSelection).1.settings = (left.resolve path hasSelection).1.settings := by
  rw [(coherentLeft.resolve path hasSelection).1, (coherentRight.resolve path hasSelection).1,
    renumbered.resolveUncached]

theorem perform_answer (renumbered : Renumbered number left right) (coherentLeft : left.Coherent)
    (coherentRight : right.Coherent) (operation : Operation) :
    (operation.perform right).1 = (operation.perform left).1.renumber number := by
  have resolved := renumbered.resolve coherentLeft coherentRight
  have count : right.records.length = left.records.length := by
    rw [renumbered.records, List.length_map]
  cases operation with
  | register spec =>
    rw [Operation.perform, Operation.perform, register, register]
    cases spec.compile with
    | error error => rfl
    | ok record =>
      exact congrArg (fun id => Answer.registered (.ok id)) (renumbered.following 0).symm
  | registerBundle bundle =>
    exact congrArg (fun ids => Answer.report ⟨ids, (compileBundle bundle).2⟩) (renumbered.nextIds _)
  | replaceBundle bundle =>
    exact congrArg (fun ids => Answer.report ⟨ids, (compileBundle bundle).2⟩) (renumbered.nextIds _)
  | unregisterBundle bundle =>
    have kept := congrArg List.length (renumbered.filter_records (.unregisterBundle bundle))
    rw [List.length_map] at kept
    exact congrArg Answer.removed (congrArg₂ (· - ·) count kept)
  | resolve path hasSelection => exact congrArg Answer.settings (resolved path hasSelection)
  | resolveUncached path hasSelection =>
    exact congrArg Answer.settings (renumbered.resolveUncached path hasSelection)
  | ranking path hasSelection =>
    exact congrArg Answer.ranking (renumbered.ranking path hasSelection)
  | preference path key =>
    exact congrArg (fun settings => Answer.setting (settings.get? key)) (resolved path false)
  | preferences path keys =>
    exact congrArg (fun settings => Answer.settings (settings.select keys)) (resolved path false)
  | commandsForScope path hasSelection =>
    exact congrArg (fun settings => Answer.items settings.commands) (resolved path hasSelection)
  | size => exact congrArg Answer.size count
  | isEmpty =>
    change Answer.isEmpty right.records.isEmpty = Answer.isEmpty left.records.isEmpty
    rw [renumbered.records, List.isEmpty_map]

theorem run_answers (renumbered : Renumbered number left right) (coherentLeft : left.Coherent)
    (coherentRight : right.Coherent) (operations : List Operation) :
    (right.run operations).1 = (left.run operations).1.map (Answer.renumber number) := by
  induction operations generalizing left right with
  | nil => rfl
  | cons operation rest ih =>
    have later := ih (renumbered.perform operation) (coherentLeft.perform operation)
      (coherentRight.perform operation)
    rw [run_cons, run_cons, later, renumbered.perform_answer coherentLeft coherentRight]
    rfl

end Renumbered

end Cascade

end ScopeCascade
