import Mathlib
import ScopeCascade.Proofs.Cascade.History

/-! The order of registration decides only between records of one specificity. A cascade ranks like
one whose numbers are the places of the survivors, and there a rearrangement that keeps ties in
order is another numbering. -/
namespace ScopeCascade

/-- The second list has the items of the first in other places, those of one rank in the same
order. Items without a rank may stand anywhere. -/
def Rearranged {α β : Type} (rank? : α → Option β) (left right : List α) : Prop :=
  ∃ place : Nat → Nat, Set.BijOn place (Set.Iio left.length) (Set.Iio right.length) ∧
    (∀ index < left.length, right[place index]? = left[index]?) ∧
    ∀ index < left.length, ∀ later < left.length, index < later → ∀ rank,
      left[index]?.bind rank? = some rank → left[later]?.bind rank? = some rank →
      place index < place later

namespace Rearranged

variable {α β γ : Type} {rank? : β → Option γ} {f : α → β} {left right : List α}

theorem map (rearranged : Rearranged (fun item => rank? (f item)) left right) :
    Rearranged rank? (left.map f) (right.map f) := by
  obtain ⟨place, bijective, same, ties⟩ := rearranged
  refine ⟨place, by simpa using bijective, ?_, ?_⟩
  · intro index within
    rw [List.length_map] at within
    rw [List.getElem?_map, List.getElem?_map, same index within]
  · intro index within later withinLater less rank first second
    rw [List.length_map] at within withinLater
    rw [List.getElem?_map, Option.bind_map] at first second
    exact ties index within later withinLater less rank first second

theorem of_map (injective : Function.Injective f)
    (rearranged : Rearranged rank? (left.map f) (right.map f)) :
    Rearranged (fun item => rank? (f item)) left right := by
  obtain ⟨place, bijective, same, ties⟩ := rearranged
  simp only [List.length_map, List.getElem?_map, Option.bind_map] at bijective same ties
  refine ⟨place, bijective, ?_, ties⟩
  intro index within
  exact Option.map_injective injective (same index within)

end Rearranged

namespace Cascade

/-- The cascade that has registered these records and nothing else. -/
def ofRecords (records : List CompiledRecord) : Cascade :=
  { records := numbered 0 records, nextOrder := records.length }

theorem ordered_ofRecords (records : List CompiledRecord) : (ofRecords records).Ordered where
  increasing := numbered_increasing 0 records
  bounded := by
    intro record member
    have bounds := mem_numbered_bounds member
    dsimp only [ofRecords]
    omega

theorem mem_ranking_ofRecords (records : List CompiledRecord) (path : ScopePath)
    (hasSelection : Bool) (ranked : RankedRecord) :
    ranked ∈ (ofRecords records).ranking path hasSelection ↔
      records[ranked.record.order]? = some ranked.record.toCompiledRecord ∧
        ranked.record.rank? path hasSelection = some ranked.specificity := by
  rw [mem_ranking, Applies, ← CompiledRecord.rank?_eq_some_iff, ofRecords, mem_numbered_iff]
  simp

theorem ranking_ofRecords_rearranged {left right : List CompiledRecord} {path : ScopePath}
    {hasSelection : Bool}
    (rearranged : Rearranged (fun record => record.rank? path hasSelection) left right) :
    ∃ place, (ofRecords right).ranking path hasSelection =
      ((ofRecords left).ranking path hasSelection).map (RankedRecord.renumber place) := by
  obtain ⟨place, bijective, same, ties⟩ := rearranged
  refine ⟨place, RankedRecord.ranking_ext
    ((ordered_ofRecords right).ranking_ascending path hasSelection) ?_ ?_⟩
  · have ascending := (ordered_ofRecords left).ranking_ascending path hasSelection
    rw [List.pairwise_map]
    refine ascending.imp_of_mem ?_
    intro lower higher inLower inHigher below
    obtain ⟨locatedLower, rankLower⟩ := (mem_ranking_ofRecords _ _ _ _).mp inLower
    obtain ⟨locatedHigher, rankHigher⟩ := (mem_ranking_ofRecords _ _ _ _).mp inHigher
    -- The numbers are places here, and the places of two records that tie keep their order.
    refine below.imp_right ?_
    rintro ⟨equal, older⟩
    refine ⟨equal, ties _ (List.getElem?_eq_some_iff.mp locatedLower).1 _
      (List.getElem?_eq_some_iff.mp locatedHigher).1 older lower.specificity ?_ ?_⟩
    · rw [locatedLower, Option.bind_some, rankLower]
    · rw [locatedHigher, Option.bind_some, rankHigher, equal]
  · intro ranked
    rw [mem_ranking_ofRecords, List.mem_map]
    constructor
    · rintro ⟨located, rank⟩
      obtain ⟨index, within, moved⟩ :=
        bijective.surjOn (List.getElem?_eq_some_iff.mp located).1
      refine ⟨⟨{ ranked.record with order := index }, ranked.specificity⟩, ?_, ?_⟩
      · rw [mem_ranking_ofRecords]
        exact ⟨by rw [← same index within, moved, located], rank⟩
      · rw [RankedRecord.renumber, Record.renumber, moved]
    · rintro ⟨origin, member, rfl⟩
      obtain ⟨located, rank⟩ := (mem_ranking_ofRecords _ _ _ _).mp member
      have within := (List.getElem?_eq_some_iff.mp located).1
      exact ⟨(same _ within).trans located, rank⟩

end Cascade

/-- The record and its specificity, without its number. -/
def RankedRecord.view (ranked : RankedRecord) : CompiledRecord × Specificity :=
  (ranked.record.toCompiledRecord, ranked.specificity)

theorem RankedRecord.map_view_renumber (number : Nat → Nat) (ranking : List RankedRecord) :
    (ranking.map (renumber number)).map view = ranking.map view := by
  rw [List.map_map]
  rfl

namespace Cascade

theorem Ordered.map_view_ranking {cascade : Cascade} (ordered : cascade.Ordered) (path : ScopePath)
    (hasSelection : Bool) :
    (cascade.ranking path hasSelection).map RankedRecord.view =
      ((ofRecords (cascade.records.map Record.toCompiledRecord)).ranking path hasSelection).map
        RankedRecord.view := by
  have renumbered : Renumbered cascade.numberAt
      (ofRecords (cascade.records.map Record.toCompiledRecord)) cascade := by
    apply ordered.renumbered
    rw [bare, ofRecords, List.length_map]
  rw [renumbered.ranking, RankedRecord.map_view_renumber]

theorem resolveUncached_eq (cascade : Cascade) (path : ScopePath) (hasSelection : Bool) :
    cascade.resolveUncached path hasSelection =
      .ofFragments (((cascade.ranking path hasSelection).map RankedRecord.view).map
        (·.1.settings)) := by
  rw [List.map_map]
  rfl

end Cascade

/-- The specificity of the record that the spec comes to. -/
def RecordSpec.rank? (path : ScopePath) (hasSelection : Bool) (spec : RecordSpec) :
    Option Specificity :=
  spec.compile.toOption.bind (·.rank? path hasSelection)

theorem rearranged_compileAll {left right : List RecordSpec} {path : ScopePath}
    {hasSelection : Bool} (each : ∀ spec ∈ left ++ right, spec.compile.isOk)
    (rearranged : Rearranged (RecordSpec.rank? path hasSelection) left right) :
    Rearranged (fun record => record.rank? path hasSelection) (compileAll left)
      (compileAll right) := by
  obtain ⟨eachLeft, eachRight⟩ := List.forall_mem_append.mp each
  have results : Rearranged (fun result => result.toOption.bind (·.rank? path hasSelection))
      (left.map RecordSpec.compile) (right.map RecordSpec.compile) := Rearranged.map rearranged
  rw [map_compile eachLeft, map_compile eachRight] at results
  exact results.of_map fun _ _ => Except.ok.inj

namespace Cascade

/-- Two cascades whose specs are registered in different orders, those of equal specificity in the
same one, resolve alike and list the same records in the same order. -/
theorem order_decides_ties (options others : CascadeOptions) (left right : List Operation)
    (path : ScopePath) (hasSelection : Bool)
    (rearranged : Rearranged (RecordSpec.rank? path hasSelection) (survivors left)
      (survivors right)) :
    let first := ((ofOptions options).run left).2
    let second := ((ofOptions others).run right).2
    (first.resolve path hasSelection).1.settings = (second.resolve path hasSelection).1.settings ∧
      (first.commandsForScope path hasSelection).1 =
        (second.commandsForScope path hasSelection).1 ∧
      (first.ranking path hasSelection).map RankedRecord.view =
        (second.ranking path hasSelection).map RankedRecord.view := by
  intro first second
  have coherentFirst : first.Coherent := run_coherent options left
  have coherentSecond : second.Coherent := run_coherent others right
  have recordsFirst : first.records.map Record.toCompiledRecord = compileAll (survivors left) :=
    run_records (ofOptions options) left
  have recordsSecond : second.records.map Record.toCompiledRecord = compileAll (survivors right) :=
    run_records (ofOptions others) right
  have ranking : (first.ranking path hasSelection).map RankedRecord.view =
      (second.ranking path hasSelection).map RankedRecord.view := by
    have each : ∀ spec ∈ survivors left ++ survivors right, spec.compile.isOk :=
      List.forall_mem_append.mpr ⟨survivors_isOk left, survivors_isOk right⟩
    obtain ⟨place, moved⟩ := ranking_ofRecords_rearranged (rearranged_compileAll each rearranged)
    rw [(run_ordered options left).map_view_ranking, (run_ordered others right).map_view_ranking,
      recordsFirst, recordsSecond, moved, RankedRecord.map_view_renumber]
  have resolved : (first.resolve path hasSelection).1.settings =
      (second.resolve path hasSelection).1.settings := by
    rw [(coherentFirst.resolve path hasSelection).1, (coherentSecond.resolve path hasSelection).1,
      resolveUncached_eq, resolveUncached_eq, ranking]
  exact ⟨resolved, congrArg EffectiveSettings.commands resolved, ranking⟩

theorem order_decides_ties_of_deeper_record :
    let spec (selector name : String) : RecordSpec :=
      ⟨"bundle", some selector, .ofList [.shellVariables (.singleton name selector)], .any⟩
    let older := spec "source" "OLDER"
    let newer := spec "source" "NEWER"
    let deeper := spec "string" "DEEPER"
    let path : ScopePath := ⟨[⟨[⟨"source".toList, by decide⟩], by decide⟩,
      ⟨[⟨"string".toList, by decide⟩], by decide⟩], by decide⟩
    let left : List Operation := [.register older, .register newer, .register deeper]
    let right : List Operation := [.register deeper, .register older, .register newer]
    Rearranged (RecordSpec.rank? path false) (survivors left) (survivors right) ∧
      (((ofOptions {}).run left).2.resolve path false).1.settings =
        (((ofOptions {}).run right).2.resolve path false).1.settings ∧
      (((ofOptions {}).run left).2.ranking path false).map RankedRecord.view =
        (((ofOptions {}).run right).2.ranking path false).map RankedRecord.view := by
  intro spec older newer deeper path left right
  have rearranged : Rearranged (RecordSpec.rank? path false) (survivors left)
      (survivors right) := by
    have listedLeft : survivors left = [older, newer, deeper] := by cbv
    have listedRight : survivors right = [deeper, older, newer] := by cbv
    rw [listedLeft, listedRight]
    refine ⟨fun index => (index + 1) % 3, ⟨?_, ?_, ?_⟩, ?_, ?_⟩
    · intro index _
      simp only [Set.mem_Iio, List.length_cons, List.length_nil]
      omega
    · intro index within other withinOther same
      simp only [Set.mem_Iio, List.length_cons, List.length_nil] at within withinOther same
      omega
    · intro index within
      simp only [Set.mem_Iio, List.length_cons, List.length_nil] at within
      refine ⟨(index + 2) % 3, ?_, ?_⟩
      · simp only [Set.mem_Iio, List.length_cons, List.length_nil]
        omega
      · dsimp only
        omega
    · intro index within
      obtain rfl | rfl | rfl : index = 0 ∨ index = 1 ∨ index = 2 := by
        simp only [List.length_cons, List.length_nil] at within
        omega
      all_goals rfl
    · have shallow : RecordSpec.rank? path false older = some ⟨[⟨1, 1⟩]⟩ ∧
          RecordSpec.rank? path false newer = some ⟨[⟨1, 1⟩]⟩ := by cbv
      have deep : RecordSpec.rank? path false deeper = some ⟨[⟨2, 1⟩]⟩ := by cbv
      intro index within later withinLater less rank first second
      simp only [List.length_cons, List.length_nil] at withinLater
      obtain ⟨rfl, rfl⟩ | ⟨shallower, rfl⟩ : (index = 0 ∧ later = 1) ∨
          ((index = 0 ∨ index = 1) ∧ later = 2) := by omega
      · decide
      · have distinct : (⟨[⟨1, 1⟩]⟩ : Specificity) ≠ ⟨[⟨2, 1⟩]⟩ := by decide
        have second : some ⟨[⟨2, 1⟩]⟩ = some rank := deep.symm.trans second
        rcases shallower with rfl | rfl
        · have first : some ⟨[⟨1, 1⟩]⟩ = some rank := shallow.1.symm.trans first
          exact absurd (Option.some.inj (first.trans second.symm)) distinct
        · have first : some ⟨[⟨1, 1⟩]⟩ = some rank := shallow.2.symm.trans first
          exact absurd (Option.some.inj (first.trans second.symm)) distinct
  obtain ⟨resolved, _, ranking⟩ := order_decides_ties {} {} left right path false rearranged
  exact ⟨rearranged, resolved, ranking⟩

end Cascade

end ScopeCascade
