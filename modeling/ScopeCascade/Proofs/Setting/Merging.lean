import ScopeCascade.Proofs.Setting.Layers

/-! Fragments merge as a monoid, which acts on the settings in force. All of it holds at each key,
where two settings of the key are merged: the later one counts, or its entries are united with those
of the earlier one, in their order. -/
namespace ScopeCascade

namespace AdditiveKind

variable {α : Type} (kind : AdditiveKind α)

theorem merge_assoc {first second third : Setting} (firstKey : first.key = kind.key)
    (secondKey : second.key = kind.key) (thirdKey : third.key = kind.key) :
    Setting.merge (Setting.merge first second) third =
      Setting.merge first (Setting.merge second third) := by
  obtain ⟨earliest, rfl⟩ := kind.exists_entries first firstKey
  obtain ⟨earlier, rfl⟩ := kind.exists_entries second secondKey
  obtain ⟨latest, rfl⟩ := kind.exists_entries third thirdKey
  simp only [kind.merge_ofEntries, InsertionMap.union_assoc]

theorem merge_self {setting : Setting} (key : setting.key = kind.key) :
    Setting.merge setting setting = setting := by
  obtain ⟨entries, rfl⟩ := kind.exists_entries setting key
  rw [kind.merge_ofEntries, InsertionMap.union_self]

end AdditiveKind

theorem SettingKey.override_or_additive (key : SettingKey) : key.mergePolicy = .override ∨
    key = AdditiveKind.shellVariables.key ∨ key = AdditiveKind.commands.key := by
  cases key with
  | shellVariables => exact .inr (.inl rfl)
  | commands => exact .inr (.inr rfl)
  | _ => exact .inl rfl

namespace Setting

theorem merge_assoc {first second third : Setting} (firstKey : first.key = third.key)
    (secondKey : second.key = third.key) :
    merge (merge first second) third = merge first (merge second third) := by
  rcases third.key.override_or_additive with override | shell | commands
  · rw [merge_of_override override, merge_of_override override, merge_of_override override]
  · exact AdditiveKind.shellVariables.merge_assoc (firstKey.trans shell)
      (secondKey.trans shell) shell
  · exact AdditiveKind.commands.merge_assoc (firstKey.trans commands) (secondKey.trans commands)
      commands

theorem merge_self (setting : Setting) : merge setting setting = setting := by
  rcases setting.key.override_or_additive with override | shell | commands
  · exact merge_of_override override
  · exact AdditiveKind.shellVariables.merge_self shell
  · exact AdditiveKind.commands.merge_self commands

/-- The setting, if there is one, belongs under the key. -/
def Under (key : SettingKey) (held : Option Setting) : Prop := ∀ setting ∈ held, setting.key = key

theorem stacked_assoc {key : SettingKey} {first second third : Option Setting}
    (firstKey : Under key first) (secondKey : Under key second) (thirdKey : Under key third) :
    stacked (stacked first second) third = stacked first (stacked second third) := by
  cases third with
  | none => rfl
  | some latest =>
    cases second with
    | none => rfl
    | some later =>
      cases first with
      | none => rfl
      | some earlier =>
        have last : latest.key = key := thirdKey latest rfl
        exact congrArg some (merge_assoc ((firstKey earlier rfl).trans last.symm)
          ((secondKey later rfl).trans last.symm))

theorem stacked_self (held : Option Setting) : stacked held held = held := by
  cases held with
  | none => rfl
  | some setting => exact congrArg some (merge_self setting)

theorem none_stacked (held : Option Setting) : stacked none held = held := by
  cases held <;> rfl

end Setting

namespace SettingMap

/-- The settings of a later map laid over those of a map. -/
def overlay (map later : SettingMap) : SettingMap := map.addAll later.values

theorem Keyed.under {map : SettingMap} (keyed : map.Keyed) (key : SettingKey) :
    Setting.Under key (map.get? key) := fun setting found => keyed key setting found

variable {first second third : SettingMap}

theorem overlay_assoc (firstKeyed : first.Keyed) (secondKeyed : second.Keyed)
    (thirdKeyed : third.Keyed) :
    (first.overlay second).overlay third = first.overlay (second.overlay third) := by
  have both : (second.overlay third).Keyed := secondKeyed.addAll third.values
  apply SortedMap.ext_get?
  intro key
  calc ((first.overlay second).overlay third).get? key
      = Setting.stacked ((first.overlay second).get? key) (third.get? key) :=
        get?_addAll_values _ thirdKeyed key
    _ = Setting.stacked (Setting.stacked (first.get? key) (second.get? key)) (third.get? key) := by
        rw [overlay, get?_addAll_values first secondKeyed]
    _ = Setting.stacked (first.get? key) (Setting.stacked (second.get? key) (third.get? key)) :=
        Setting.stacked_assoc (firstKeyed.under key) (secondKeyed.under key) (thirdKeyed.under key)
    _ = Setting.stacked (first.get? key) ((second.overlay third).get? key) := by
        rw [overlay, get?_addAll_values second thirdKeyed]
    _ = (first.overlay (second.overlay third)).get? key :=
        (get?_addAll_values first both key).symm

theorem empty_overlay (keyed : first.Keyed) : overlay ∅ first = first := by
  apply SortedMap.ext_get?
  intro key
  rw [overlay, get?_addAll_values _ keyed, SortedMap.get?_empty, Setting.none_stacked]

theorem overlay_self (keyed : first.Keyed) : first.overlay first = first := by
  apply SortedMap.ext_get?
  intro key
  rw [overlay, get?_addAll_values _ keyed, Setting.stacked_self]

/-- Maps without a common key may be laid in either order. -/
theorem overlay_comm (map : SettingMap) (firstKeyed : first.Keyed) (secondKeyed : second.Keyed)
    (apart : ∀ key, first.get? key = none ∨ second.get? key = none) :
    (map.overlay first).overlay second = (map.overlay second).overlay first := by
  apply SortedMap.ext_get?
  intro key
  simp only [overlay, get?_addAll_values _ firstKeyed, get?_addAll_values _ secondKeyed]
  rcases apart key with absent | absent
  · rw [absent, Setting.stacked, Setting.stacked]
  · rw [absent, Setting.stacked, Setting.stacked]

end SettingMap

namespace SettingsFragment

/-- All settings of the second fragment inserted into the first. -/
instance : Add SettingsFragment := ⟨fun fragment more => fragment.insertAll more.toList⟩

theorem eq_of_settings {fragment other : SettingsFragment}
    (same : fragment.settings = other.settings) : fragment = other := by
  cases fragment
  cases other
  cases same
  rfl

end SettingsFragment

namespace EffectiveSettings

theorem eq_of_settings {effective other : EffectiveSettings}
    (same : effective.settings = other.settings) : effective = other := by
  cases effective
  cases other
  cases same
  rfl

/-- Fragments merge in whatever way they are grouped, and the empty one changes nothing. To apply
several in turn is to apply what they merge into, to apply one twice is to apply it once, and
fragments without a common key can be applied in either order. -/
theorem fragments_act (effective : EffectiveSettings) (first second third : SettingsFragment) :
    ((first + second) + third = first + (second + third) ∧ ∅ + first = first ∧
        first + ∅ = first) ∧
      ((effective.apply first).apply second = effective.apply (first + second) ∧
        effective.apply ∅ = effective ∧ (apply ∅ first).settings = first.settings) ∧
      (effective.apply first).apply first = effective.apply first ∧
      ((∀ key, first.get? key = none ∨ second.get? key = none) →
        (effective.apply first).apply second = (effective.apply second).apply first) := by
  have grouped : (first + second) + third = first + (second + third) :=
    SettingsFragment.eq_of_settings
      (SettingMap.overlay_assoc first.keyed second.keyed third.keyed)
  have neutral : ∅ + first = first :=
    SettingsFragment.eq_of_settings (SettingMap.empty_overlay first.keyed)
  have acts (more : SettingsFragment) :
      (effective.apply first).apply more = effective.apply (first + more) :=
    eq_of_settings (SettingMap.overlay_assoc effective.keyed first.keyed more.keyed)
  have twice : first + first = first :=
    SettingsFragment.eq_of_settings (SettingMap.overlay_self first.keyed)
  refine ⟨⟨grouped, neutral, rfl⟩, ⟨acts second, rfl, SettingMap.empty_overlay first.keyed⟩, ?_, ?_⟩
  · rw [acts first, twice]
  · intro apart
    exact eq_of_settings
      (SettingMap.overlay_comm effective.settings first.keyed second.keyed apart)

theorem fragments_act_in_either_order :
    let effective := ofFragments [.ofList [.shellVariables (.singleton "NAME" "OLD")]]
    let shell : SettingsFragment :=
      .ofList [.shellVariables (.ofList [("OTHER", "NEW"), ("NAME", "NEW")])]
    let exclusion : SettingsFragment := .ofList [.commands (.singleton "uuid" .hide)]
    (∀ key, shell.get? key = none ∨ exclusion.get? key = none) ∧
      (effective.apply shell).apply exclusion = (effective.apply exclusion).apply shell ∧
      (effective.apply shell).get? .shellVariables =
        some (.shellVariables (.ofList [("NAME", "NEW"), ("OTHER", "NEW")])) := by
  intro effective shell exclusion
  have apart : ∀ key, shell.get? key = none ∨ exclusion.get? key = none := by
    intro key
    cases key with
    | shellVariables => exact .inr rfl
    | color role => cases role <;> exact .inl rfl
    | indentPattern rule => cases rule <;> exact .inl rfl
    | flag which => cases which <;> exact .inl rfl
    | _ => exact .inl rfl
  exact ⟨apart, (fragments_act effective shell exclusion ∅).2.2.2 apart, by decide⟩

end EffectiveSettings

end ScopeCascade
