import ScopeCascade.Proofs.Cascade.Memory
import ScopeCascade.Proofs.Cascade.Ranking
import ScopeCascade.Proofs.Setting.Layers

/-! Who wins in the cascade. A key that is overridden has the setting of the greatest record with
the key; where entries are united, every name has the entry of the greatest record with the name. -/
namespace ScopeCascade

/-- What the record of the highest priority with a value has; nothing if none of them has one. -/
def Won {α : Type} (applying : List RankedRecord) (value? : SettingsFragment → Option α) :
    Option α → Prop
  | none => ∀ ranked ∈ applying, value? ranked.record.settings = none
  | some value => ∃ winner ∈ applying, value? winner.record.settings = some value ∧
      ∀ other ∈ applying, (value? other.record.settings).isSome →
        other = winner ∨ other.Below winner

/-- The last record with a value is the greatest one. -/
theorem won_last {α : Type} {ascending : List RankedRecord}
    (sorted : ascending.Pairwise RankedRecord.Below) (value? : SettingsFragment → Option α) :
    Won ascending value?
      (ascending.reverse.findSome? fun ranked => value? ranked.record.settings) := by
  cases found : ascending.reverse.findSome? fun ranked => value? ranked.record.settings with
  | none =>
    intro ranked member
    exact List.findSome?_eq_none_iff.mp found ranked (List.mem_reverse.mpr member)
  | some value =>
    obtain ⟨above, winner, below, split, has, without⟩ := List.findSome?_eq_some_iff.mp found
    have descending : (above ++ winner :: below).Pairwise
        fun higher lower => lower.Below higher := by
      rw [← split, List.pairwise_reverse]
      exact sorted
    obtain ⟨_, fromWinner, _⟩ := List.pairwise_append.mp descending
    refine ⟨winner, ?_, has, ?_⟩
    · rw [← List.mem_reverse, split]
      simp
    · intro other member some
      rw [← List.mem_reverse, split, List.mem_append, List.mem_cons] at member
      rcases member with inAbove | rfl | inBelow
      · rw [without other inAbove] at some
        contradiction
      · exact .inl rfl
      · exact .inr ((List.pairwise_cons.mp fromWinner).1 other inBelow)

/-- The entries of a kind come from the greatest records that have them, and stand in the order in
which their names appear first. -/
structure AdditiveKind.United {α : Type} (kind : AdditiveKind α) (ascending : List RankedRecord)
    (effective : EffectiveSettings) : Prop where
  absent : effective.get? kind.key = none ↔
    ∀ ranked ∈ ascending, ranked.record.settings.get? kind.key = none
  entry : ∀ name, Won ascending (fun fragment => (kind.entries fragment.settings).get? name)
    ((kind.entries effective.settings).get? name)
  order : (kind.entries effective.settings).keys =
    (ascending.flatMap fun ranked => (kind.entries ranked.record.settings.settings).keys).eraseDups

theorem AdditiveKind.united {α : Type} (kind : AdditiveKind α) {ascending : List RankedRecord}
    (sorted : ascending.Pairwise RankedRecord.Below) :
    kind.United ascending (.ofFragments (ascending.map (·.record.settings))) where
  absent := by
    rw [EffectiveSettings.get?_ofFragments_eq_none, List.forall_mem_map]
  entry name := by
    rw [kind.get?_entries_ofFragments, ← List.map_reverse, List.findSome?_map]
    exact won_last sorted fun fragment => (kind.entries fragment.settings).get? name
  order := by
    rw [kind.keys_entries_ofFragments, List.flatMap_map]

/-- The items of a list of entries that are offered. -/
def offered? : CommandEntry → Option BundleItem
  | .offer item => some item
  | .hide => none

theorem EffectiveSettings.commands_eq (effective : EffectiveSettings) :
    effective.commands = (AdditiveKind.commands.entries effective.settings).keys.filterMap
      fun uuid => ((AdditiveKind.commands.entries effective.settings).get? uuid).bind offered? := by
  have held : effective.commandEntries =
      (AdditiveKind.commands.entries effective.settings).values := by
    change _ = (((effective.get? .commands).bind AdditiveKind.commands.entries?).getD ∅).values
    rw [commandEntries]
    cases effective.get? .commands with
    | none => rfl
    | some setting => cases setting <;> rfl
  rw [commands, held, InsertionMap.values_eq_filterMap, List.filterMap_filterMap]
  rfl

namespace Cascade

/-- In every state that a run reaches, the settings in force are those of the winners. -/
theorem resolve_won (options : CascadeOptions) (operations : List Operation) (path : ScopePath)
    (hasSelection : Bool) :
    let reached := ((ofOptions options).run operations).2
    let ascending := reached.ranking path hasSelection
    let effective := (reached.resolve path hasSelection).1.settings
    (∀ ranked, ranked ∈ ascending ↔ reached.Applies path hasSelection ranked) ∧
      ascending.Pairwise (fun lower higher =>
        compare lower.specificity higher.specificity = .lt ∨
          lower.specificity = higher.specificity ∧ lower.record.order < higher.record.order) ∧
      (∀ key, key.mergePolicy = .override →
        Won ascending (·.get? key) (effective.get? key)) ∧
      AdditiveKind.shellVariables.United ascending effective ∧
      AdditiveKind.commands.United ascending effective ∧
      effective.commands = (AdditiveKind.commands.entries effective.settings).keys.filterMap
        fun uuid =>
          ((AdditiveKind.commands.entries effective.settings).get? uuid).bind offered? := by
  intro reached ascending effective
  have sorted := (run_ordered options operations).ranking_ascending path hasSelection
  have folded : effective = .ofFragments (ascending.map (·.record.settings)) :=
    ((run_coherent options operations).resolve path hasSelection).1
  refine ⟨reached.mem_ranking path hasSelection, sorted, ?_, ?_, ?_, effective.commands_eq⟩
  · intro key override
    rw [folded, EffectiveSettings.get?_ofFragments_override override, ← List.map_reverse,
      List.findSome?_map]
    exact won_last sorted (·.get? key)
  · rw [folded]
    exact AdditiveKind.shellVariables.united sorted
  · rw [folded]
    exact AdditiveKind.commands.united sorted

end Cascade

end ScopeCascade
