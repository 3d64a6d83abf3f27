import ScopeCascade.Proofs.Cascade.History
import ScopeCascade.Proofs.Selector.Rank

/-! The list of the records that apply at a path: each of them once, by specificity and then by
number. A match has atoms, so records without a selector come before all others. -/
namespace ScopeCascade

theorem Specificity.universal_lt {specificity : Specificity}
    (filled : specificity.weights ≠ []) : compare universal specificity = .lt := by
  obtain ⟨weight, rest, same⟩ := List.exists_cons_of_ne_nil filled
  change compare [] specificity.weights = .lt
  rw [same]
  rfl

/-- Whether the record admits the selection and its selector, if it has one, matches the path. -/
def Record.applies (record : Record) (path : ScopePath) (hasSelection : Bool) : Bool :=
  record.selection.admits hasSelection && record.selector.all (·.isMatch path)

theorem Record.isSome_rank? (record : Record) (path : ScopePath) (hasSelection : Bool) :
    (record.rank? path hasSelection).isSome = record.applies path hasSelection := by
  unfold CompiledRecord.rank? applies
  cases record.selection.admits hasSelection with
  | false => rfl
  | true =>
    cases record.selector with
    | none => rfl
    | some selector => simp [Selector.rank?, Selector.isMatch]

namespace Cascade

theorem ranking_perm (cascade : Cascade) (path : ScopePath) (hasSelection : Bool) :
    ((cascade.ranking path hasSelection).map (·.record)).Perm
      (cascade.records.filter (·.applies path hasSelection)) := by
  have applying : (cascade.records.filterMap (RankedRecord.ofRecord? path hasSelection)).map
      (·.record) = cascade.records.filter (·.applies path hasSelection) := by
    rw [List.map_filterMap, ← List.filterMap_eq_filter]
    congr 1
    funext record
    rw [Option.guard, ← record.isSome_rank?, RankedRecord.ofRecord?]
    cases record.rank? path hasSelection <;> rfl
  rw [← applying]
  exact (List.mergeSort_perm _ _).map _

theorem Applies.specificity_of_selector {cascade : Cascade} {path : ScopePath}
    {hasSelection : Bool} {ranked : RankedRecord}
    (applies : cascade.Applies path hasSelection ranked) {selector : Selector}
    (own : ranked.record.selector = some selector) :
    selector.rank? path = some ranked.specificity := by
  obtain ⟨_, _, specific⟩ := applies
  rw [own] at specific
  obtain ⟨result, matched, same⟩ := specific
  rw [Selector.rank?, matched, same]
  rfl

/-- Nothing that has a selector is below what has none. -/
theorem Applies.selector_of_below {cascade : Cascade} {path : ScopePath} {hasSelection : Bool}
    {lower higher : RankedRecord} (appliesLower : cascade.Applies path hasSelection lower)
    (appliesHigher : cascade.Applies path hasSelection higher)
    (below : lower.Below higher) (universal : higher.record.selector = none) :
    lower.record.selector = none := by
  have greatest := appliesHigher.2.2
  rw [universal] at greatest
  cases own : lower.record.selector with
  | none => rfl
  | some selector =>
    have specific := appliesLower.specificity_of_selector own
    have reaches := ((selector.rank?_eq_some_iff path _).mp specific).1
    have above := Specificity.universal_lt reaches.weights_ne_nil
    rw [RankedRecord.Below, greatest] at below
    rcases below with less | ⟨same, _⟩
    · exact absurd less (Std.OrientedCmp.not_lt_of_lt above)
    · exact absurd (congrArg Specificity.weights same) reaches.weights_ne_nil

/-- In every state that a run reaches, the list has exactly the records that apply, each once and
with the specificity of the best match of its selector, in strict order. -/
theorem ranking_exact (options : CascadeOptions) (operations : List Operation) (path : ScopePath)
    (hasSelection : Bool) :
    let reached := ((ofOptions options).run operations).2
    let ranking := reached.ranking path hasSelection
    reached.records.map Record.toCompiledRecord = compileAll (survivors operations) ∧
      (ranking.map (·.record)).Perm (reached.records.filter (·.applies path hasSelection)) ∧
      (ranking.map (·.record.order)).Nodup ∧
      (∀ ranked ∈ ranking, match ranked.record.selector with
        | none => ranked.specificity = .universal
        | some selector =>
          (∃ result, selector.match? path = some result ∧ ranked.specificity = .ofMatch result) ∧
            ∀ other, selector.Reaches path other → (compare other ranked.specificity).isLE) ∧
      ranking.Pairwise (fun lower higher =>
        compare lower.specificity higher.specificity = .lt ∨
          lower.specificity = higher.specificity ∧ lower.record.order < higher.record.order) ∧
      ranking.Pairwise fun lower higher =>
        higher.record.selector = none → lower.record.selector = none := by
  intro reached ranking
  have ordered : reached.Ordered := run_ordered options operations
  have ascending := ordered.ranking_ascending path hasSelection
  have applies : ∀ ranked ∈ ranking, reached.Applies path hasSelection ranked :=
    fun ranked member => (reached.mem_ranking path hasSelection ranked).mp member
  have exactly := reached.ranking_perm path hasSelection
  refine ⟨run_records (ofOptions options) operations, exactly, ?_, ?_, ?_, ?_⟩
  · have distinct : (reached.records.map Record.order).Nodup :=
      List.pairwise_map.mpr (ordered.increasing.imp Nat.ne_of_lt)
    have listed := (exactly.map Record.order).nodup_iff.mpr
      (distinct.sublist (List.filter_sublist.map Record.order))
    rwa [List.map_map] at listed
  · intro ranked member
    have applying := applies ranked member
    cases own : ranked.record.selector with
    | none => simpa [own] using applying.2.2
    | some selector =>
      have specific := applying.specificity_of_selector own
      refine ⟨by simpa [own] using applying.2.2, ?_⟩
      exact ((selector.rank?_eq_some_iff path _).mp specific).2
  · exact ascending
  · refine ascending.imp_of_mem ?_
    intro lower higher inLower inHigher below universal
    exact (applies lower inLower).selector_of_below (applies higher inHigher) below universal

end Cascade

end ScopeCascade
