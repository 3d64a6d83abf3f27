import ScopeCascade.Setting.Fragment

/-! What several fragments come to when they are laid over each other: the last one that has a key
decides, or the last one that has an entry where entries are united. -/
namespace ScopeCascade

namespace EffectiveSettings

/-- Whatever each fragment either decides or leaves alone is decided by the last one that does. -/
theorem last_decides {α : Type} (observe : EffectiveSettings → Option α)
    (value? : SettingsFragment → Option α) (nothing : observe ∅ = none)
    (laid : ∀ effective fragment,
      observe (effective.apply fragment) = (value? fragment).or (observe effective))
    (fragments : List SettingsFragment) :
    observe (.ofFragments fragments) = fragments.reverse.findSome? value? := by
  have general (effective : EffectiveSettings) :
      observe (fragments.foldl apply effective) =
        (fragments.reverse.findSome? value?).or (observe effective) := by
    induction fragments generalizing effective with
    | nil => rfl
    | cons fragment rest ih =>
      rw [List.foldl_cons, ih, laid, List.reverse_cons, List.findSome?_append,
        List.findSome?_singleton, Option.or_assoc]
  rw [ofFragments, general, nothing, Option.or_none]

theorem get?_ofFragments_override {key : SettingKey} (override : key.mergePolicy = .override)
    (fragments : List SettingsFragment) :
    (ofFragments fragments).get? key = fragments.reverse.findSome? (·.get? key) := by
  apply last_decides (·.get? key) (·.get? key) rfl
  intro effective fragment
  rw [get?_apply]
  cases found : fragment.get? key with
  | none => rfl
  | some later =>
    have replaced : Setting.laidOver (effective.get? key) later = later := by
      cases effective.get? key with
      | none => rfl
      | some earlier =>
        exact Setting.merge_of_override ((fragment.keyed key later found).symm ▸ override)
    dsimp only
    rw [replaced, Option.some_or]

/-- A key is there when a fragment has it, however its settings are merged. -/
theorem get?_ofFragments_eq_none (fragments : List SettingsFragment) (key : SettingKey) :
    (ofFragments fragments).get? key = none ↔
      ∀ fragment ∈ fragments, fragment.get? key = none := by
  have present : ((ofFragments fragments).get? key).map (fun _ => ()) =
      fragments.reverse.findSome? fun fragment => (fragment.get? key).map fun _ => () := by
    apply last_decides (fun effective => (effective.get? key).map fun _ => ()) _ rfl
    intro effective fragment
    rw [get?_apply]
    cases fragment.get? key <;> rfl
  rw [← Option.map_eq_none_iff (f := fun _ => ()), present, List.findSome?_eq_none_iff]
  simp only [List.mem_reverse, Option.map_eq_none_iff]

end EffectiveSettings

/-- A kind of setting whose entries are united when it is merged. -/
structure AdditiveKind (α : Type) where
  key : SettingKey
  ofEntries : InsertionMap String α → Setting
  entries? : Setting → Option (InsertionMap String α)
  entries?_ofEntries : ∀ entries, entries? (ofEntries entries) = some entries
  exists_entries : ∀ setting, setting.key = key → ∃ entries, setting = ofEntries entries
  merge_ofEntries : ∀ earlier later,
    Setting.merge (ofEntries earlier) (ofEntries later) = ofEntries (earlier.union later)

namespace AdditiveKind

def shellVariables : AdditiveKind String where
  key := .shellVariables
  ofEntries := .shellVariables
  entries?
    | .shellVariables values => some values
    | _ => none
  entries?_ofEntries _ := rfl
  exists_entries
    | .shellVariables values, _ => ⟨values, rfl⟩
  merge_ofEntries _ _ := rfl

def commands : AdditiveKind CommandEntry where
  key := .commands
  ofEntries := .commands
  entries?
    | .commands entries => some entries
    | _ => none
  entries?_ofEntries _ := rfl
  exists_entries
    | .commands entries, _ => ⟨entries, rfl⟩
  merge_ofEntries _ _ := rfl

variable {α : Type} (kind : AdditiveKind α)

/-- The entries among some settings, none if there are no settings of the kind. -/
def entries (map : SettingMap) : InsertionMap String α :=
  ((map.get? kind.key).bind kind.entries?).getD ∅

theorem entries_of_get? (map : SettingMap) {held : InsertionMap String α}
    (found : map.get? kind.key = some (kind.ofEntries held)) : kind.entries map = held := by
  rw [entries, found, Option.bind_some, kind.entries?_ofEntries, Option.getD_some]

theorem entries_of_absent (map : SettingMap) (absent : map.get? kind.key = none) :
    kind.entries map = ∅ := by
  rw [entries, absent, Option.bind_none, Option.getD_none]

theorem entries_apply (effective : EffectiveSettings) (fragment : SettingsFragment) :
    kind.entries (effective.apply fragment).settings =
      (kind.entries effective.settings).union (kind.entries fragment.settings) := by
  have laid := effective.get?_apply fragment kind.key
  cases fromFragment : fragment.get? kind.key with
  | none =>
    rw [fromFragment] at laid
    rw [kind.entries_of_absent fragment.settings fromFragment, InsertionMap.union_empty, entries,
      entries]
    exact congrArg (fun held => (held.bind kind.entries?).getD ∅) laid
  | some later =>
    obtain ⟨more, rfl⟩ := kind.exists_entries later (fragment.keyed _ _ fromFragment)
    rw [fromFragment] at laid
    rw [kind.entries_of_get? fragment.settings fromFragment]
    cases soFar : effective.get? kind.key with
    | none =>
      rw [soFar] at laid
      rw [kind.entries_of_absent effective.settings soFar, InsertionMap.empty_union]
      exact kind.entries_of_get? _ laid
    | some earlier =>
      obtain ⟨held, rfl⟩ := kind.exists_entries earlier (effective.keyed _ _ soFar)
      rw [soFar] at laid
      rw [kind.entries_of_get? effective.settings soFar]
      apply kind.entries_of_get?
      rw [← kind.merge_ofEntries]
      exact laid

theorem get?_entries_ofFragments (fragments : List SettingsFragment) (name : String) :
    (kind.entries (EffectiveSettings.ofFragments fragments).settings).get? name =
      fragments.reverse.findSome? fun fragment => (kind.entries fragment.settings).get? name := by
  apply EffectiveSettings.last_decides
    (fun effective => (kind.entries effective.settings).get? name) _ rfl
  intro effective fragment
  rw [entries_apply, InsertionMap.get?_union]

theorem entries_ofFragments (fragments : List SettingsFragment) :
    kind.entries (EffectiveSettings.ofFragments fragments).settings =
      .ofList (fragments.flatMap fun fragment => (kind.entries fragment.settings).entries) := by
  have general (effective : EffectiveSettings) :
      kind.entries (fragments.foldl EffectiveSettings.apply effective).settings =
        (kind.entries effective.settings).insertAll
          (fragments.flatMap fun fragment => (kind.entries fragment.settings).entries) := by
    induction fragments generalizing effective with
    | nil => rfl
    | cons fragment rest ih =>
      rw [List.foldl_cons, ih, entries_apply, List.flatMap_cons, InsertionMap.insertAll_append]
      rfl
  exact general ∅

/-- Names stand in the order of their first appearance. -/
theorem keys_entries_ofFragments (fragments : List SettingsFragment) :
    (kind.entries (EffectiveSettings.ofFragments fragments).settings).keys =
      (fragments.flatMap fun fragment => (kind.entries fragment.settings).keys).eraseDups := by
  rw [entries_ofFragments, InsertionMap.keys_ofList, List.map_flatMap]
  rfl

end AdditiveKind

end ScopeCascade
