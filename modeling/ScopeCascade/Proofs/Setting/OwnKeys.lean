import ScopeCascade.Proofs.Setting.Reading

/-! Settings stand under their own keys because of what is done with them. The maps of fragments and
of the settings in force are built once more without a promise about their keys, and with any way of
combining two settings; what comes out has the promised keys, and combining is asked for settings of
one kind only. -/
namespace ScopeCascade

/-- A setting belongs under a key if it is of the kind that the key names. -/
inductive Setting.Belongs : SettingKey → Setting → Prop
  | color (role : ColorRole) (color : Color) : Belongs (.color role) (.color role color)
  | fontStyle (style : FontStyle) : Belongs .fontStyle (.fontStyle style)
  | indentPattern (rule : IndentRule) (pattern : Pattern) :
    Belongs (.indentPattern rule) (.indentPattern rule pattern)
  | flag (which : Flag) (on : Bool) : Belongs (.flag which) (.flag which on)
  | symbolTransformation (text : String) :
    Belongs .symbolTransformation (.symbolTransformation text)
  | smartTypingPairs (pairs : List Pair) : Belongs .smartTypingPairs (.smartTypingPairs pairs)
  | highlightPairs (pairs : List Pair) : Belongs .highlightPairs (.highlightPairs pairs)
  | shellVariables (values : Variables) : Belongs .shellVariables (.shellVariables values)
  | commands (entries : InsertionMap String CommandEntry) : Belongs .commands (.commands entries)
  | custom (name : String) (value : Json) : Belongs (.custom name) (.custom name value)

theorem Setting.belongs_iff {setting : Setting} {key : SettingKey} :
    Belongs key setting ↔ setting.key = key := by
  constructor
  · intro kind
    cases kind <;> rfl
  · rintro rfl
    cases setting <;> constructor

/-- What fragments are built by. One more setting is put in place or handed on with the fragment; a
collection and a dictionary start a fragment of their own. -/
inductive SettingsFragment.Step
  | insert (setting : Setting)
  | collect (settings : List Setting)
  | read (value : Json)

def SettingsFragment.take (engine : Pattern.Engine) (fragment : SettingsFragment) :
    Step → SettingsFragment
  | .insert setting => fragment.insert setting
  | .collect settings => .ofList settings
  | .read value => (SettingsFragment.ofJson engine value).1

def SettingsFragment.build (engine : Pattern.Engine) (steps : List Step) : SettingsFragment :=
  steps.foldl (take engine) ∅

/-- What settings in force are built by. -/
inductive EffectiveSettings.Step
  | apply (fragment : List SettingsFragment.Step)
  | select (keys : List SettingKey)

def EffectiveSettings.take (engine : Pattern.Engine) (effective : EffectiveSettings) :
    Step → EffectiveSettings
  | .apply fragment => effective.apply (.build engine fragment)
  | .select keys => effective.select keys

def EffectiveSettings.build (engine : Pattern.Engine) (steps : List Step) : EffectiveSettings :=
  steps.foldl (take engine) ∅

namespace SettingMap

section Combine

variable (engine : Pattern.Engine) (combine : Setting → Setting → Setting)

/-- Stores settings in turn, each under its key and combined with what stands there. -/
def storeAll (map : SettingMap) (settings : List Setting) : SettingMap :=
  settings.foldl (fun map setting => map.insertWith combine setting.key setting) map

/-- The settings that the entries of a dictionary are read as. -/
def readAll (value : Json) : List Setting :=
  match value.dictionary? with
  | none => []
  | some dictionary =>
    dictionary.entries.filterMap fun entry => (SettingsFragment.readEntry engine entry).1

def takeInFragment (map : SettingMap) : SettingsFragment.Step → SettingMap
  | .insert setting => map.storeAll combine [setting]
  | .collect settings => storeAll combine ∅ settings
  | .read value => storeAll combine ∅ (readAll engine value)

def ofFragmentSteps (steps : List SettingsFragment.Step) : SettingMap :=
  steps.foldl (takeInFragment engine combine) ∅

/-- The settings under the given keys, each put under the key that was asked for. -/
def choose (map : SettingMap) (keys : List SettingKey) : SettingMap :=
  .ofList (keys.filterMap fun key => (map.get? key).map fun setting => (key, setting))

def takeInForce (map : SettingMap) : EffectiveSettings.Step → SettingMap
  | .apply fragment => map.storeAll combine (ofFragmentSteps engine combine fragment).values
  | .select keys => map.choose keys

def ofSteps (steps : List EffectiveSettings.Step) : SettingMap :=
  steps.foldl (takeInForce engine combine) ∅

end Combine

theorem keyed_iff {map : SettingMap} : map.Keyed ↔ ∀ entry ∈ map.entries, entry.2.key = entry.1 :=
  ⟨fun keyed entry member => keyed entry.1 entry.2 ((mem_iff_lookup map.distinct).mp member),
    fun own key setting found => own (key, setting) ((mem_iff_lookup map.distinct).mpr found)⟩

/-- Agrees with merging on any two settings that belong under one key. -/
def MergesKinds (combine : Setting → Setting → Setting) : Prop :=
  ∀ key earlier later, Setting.Belongs key earlier → Setting.Belongs key later →
    combine earlier later = earlier.merge later

variable {engine : Pattern.Engine} {combine : Setting → Setting → Setting}
  (merges : MergesKinds combine)
include merges

/-- A setting is combined with what stands under its key only, which is of its kind. -/
theorem insertWith_eq_add {map : SettingMap} (keyed : map.Keyed) (setting : Setting) :
    map.insertWith combine setting.key setting = map.add setting := by
  apply SortedMap.ext_get?
  intro key
  rw [get?_add, SortedMap.get?_insertWith]
  split
  · rename_i same
    rw [same, Setting.laidOver]
    cases found : map.get? setting.key with
    | none => rfl
    | some earlier =>
      have kind : Setting.Belongs setting.key earlier :=
        Setting.belongs_iff.mpr (keyed setting.key earlier found)
      simp only [Option.map_some, Option.getD_some,
        merges setting.key earlier setting kind (Setting.belongs_iff.mpr rfl)]
  · rfl

theorem storeAll_eq_addAll {map : SettingMap} (keyed : map.Keyed) (settings : List Setting) :
    map.storeAll combine settings = map.addAll settings := by
  induction settings generalizing map with
  | nil => rfl
  | cons setting rest ih =>
    calc map.storeAll combine (setting :: rest)
        = storeAll combine (map.insertWith combine setting.key setting) rest := rfl
      _ = storeAll combine (map.add setting) rest := by rw [insertWith_eq_add merges keyed]
      _ = map.addAll (setting :: rest) := ih (keyed.add setting)

theorem takeInFragment_eq (fragment : SettingsFragment) (step : SettingsFragment.Step) :
    takeInFragment engine combine fragment.settings step =
      (fragment.take engine step).settings := by
  cases step with
  | insert setting => exact storeAll_eq_addAll merges fragment.keyed [setting]
  | collect settings => exact storeAll_eq_addAll merges .empty settings
  | read value =>
    rw [takeInFragment, readAll, SettingsFragment.take]
    cases is : value.dictionary? with
    | none =>
      rw [SettingsFragment.ofJson, is]
      rfl
    | some dictionary =>
      rw [SettingsFragment.ofJson_eq is]
      exact storeAll_eq_addAll merges .empty _

theorem ofFragmentSteps_eq (steps : List SettingsFragment.Step) :
    ofFragmentSteps engine combine steps = (SettingsFragment.build engine steps).settings :=
  calc ofFragmentSteps engine combine steps
      = steps.foldl (takeInFragment engine combine) (∅ : SettingsFragment).settings := rfl
    _ = (steps.foldl (SettingsFragment.take engine) ∅).settings :=
        List.foldl_hom SettingsFragment.settings (takeInFragment_eq merges)

theorem takeInForce_eq (effective : EffectiveSettings) (step : EffectiveSettings.Step) :
    takeInForce engine combine effective.settings step =
      (effective.take engine step).settings := by
  cases step with
  | apply fragment =>
    rw [takeInForce, ofFragmentSteps_eq merges]
    exact storeAll_eq_addAll merges effective.keyed _
  | select keys => rfl

theorem ofSteps_eq (steps : List EffectiveSettings.Step) :
    ofSteps engine combine steps = (EffectiveSettings.build engine steps).settings :=
  calc ofSteps engine combine steps
      = steps.foldl (takeInForce engine combine) (∅ : EffectiveSettings).settings := rfl
    _ = (steps.foldl (EffectiveSettings.take engine) ∅).settings :=
        List.foldl_hom EffectiveSettings.settings (takeInForce_eq merges)

end SettingMap

namespace EffectiveSettings

/-- The question for a key is answered with what the setting holds; where the setting is of another
kind than the key, there is no such answer. -/
def Answers (effective : EffectiveSettings) : SettingKey → Setting → Prop
  | .color role, .color _ color => effective.color? role = some color
  | .fontStyle, .fontStyle style => effective.fontStyle? = some style
  | .indentPattern rule, .indentPattern _ pattern => effective.indentPattern? rule = some pattern
  | .flag which, .flag _ on => effective.flag? which = some on
  | .symbolTransformation, .symbolTransformation text =>
    effective.symbolTransformation? = some text
  | .smartTypingPairs, .smartTypingPairs pairs => effective.smartTypingPairs = pairs
  | .highlightPairs, .highlightPairs pairs => effective.highlightPairs = pairs
  | .shellVariables, .shellVariables values => effective.shellVariables? = some values
  | .commands, .commands entries =>
    effective.commands.map .offer = entries.values.filter (· ≠ .hide)
  | .custom name, .custom _ value => effective.custom? name = some value
  | _, _ => False

theorem map_offer_commands {effective : EffectiveSettings}
    {entries : InsertionMap String CommandEntry}
    (held : effective.get? .commands = some (.commands entries)) :
    effective.commands.map .offer = entries.values.filter (· ≠ .hide) := by
  rw [commands, commandEntries, held, List.map_filterMap, ← List.filterMap_eq_filter]
  apply List.filterMap_congr
  intro entry _
  cases entry <;> rfl

theorem answers_of_get? {effective : EffectiveSettings} {key : SettingKey} {setting : Setting}
    (held : effective.get? key = some setting) : effective.Answers key setting := by
  have kind : Setting.Belongs key setting :=
    Setting.belongs_iff.mpr (effective.keyed key setting held)
  cases kind with
  | commands entries => exact map_offer_commands held
  | _ =>
    simp only [Answers, color?, fontStyle?, indentPattern?, flag?, symbolTransformation?,
      smartTypingPairs, highlightPairs, shellVariables?, custom?, held]

/-- By whatever steps fragments and settings in force are built, every setting stands under its own
key, and the question for a key that is there is answered with what stands under it. No step merges
settings of two kinds: any other way of combining those would give the same. -/
theorem settings_under_own_keys (engine : Pattern.Engine)
    (fragmentSteps : List SettingsFragment.Step) (steps : List Step) :
    let fragment := SettingMap.ofFragmentSteps engine Setting.merge fragmentSteps
    let inForce := SettingMap.ofSteps engine Setting.merge steps
    ((∀ entry ∈ fragment.entries, entry.2.key = entry.1) ∧
        ∀ entry ∈ inForce.entries, entry.2.key = entry.1) ∧
      ((SettingsFragment.build engine fragmentSteps).settings = fragment ∧
        (build engine steps).settings = inForce) ∧
      (∀ key setting, (build engine steps).get? key = some setting →
        (build engine steps).Answers key setting) ∧
      ∀ combine, SettingMap.MergesKinds combine →
        SettingMap.ofFragmentSteps engine combine fragmentSteps = fragment ∧
          SettingMap.ofSteps engine combine steps = inForce := by
  intro fragment inForce
  have merge : SettingMap.MergesKinds Setting.merge := fun _ _ _ _ _ => rfl
  have fragmentBuilt : fragment = (SettingsFragment.build engine fragmentSteps).settings :=
    SettingMap.ofFragmentSteps_eq merge fragmentSteps
  have built : inForce = (build engine steps).settings := SettingMap.ofSteps_eq merge steps
  refine ⟨⟨?_, ?_⟩, ⟨fragmentBuilt.symm, built.symm⟩, fun key setting => answers_of_get?, ?_⟩
  · rw [fragmentBuilt]
    exact SettingMap.keyed_iff.mp (SettingsFragment.build engine fragmentSteps).keyed
  · rw [built]
    exact SettingMap.keyed_iff.mp (build engine steps).keyed
  · intro combine merges
    rw [fragmentBuilt, built]
    exact ⟨SettingMap.ofFragmentSteps_eq merges fragmentSteps, SettingMap.ofSteps_eq merges steps⟩

theorem settings_under_own_keys_by_strict_merging :
    let engine : Pattern.Engine := .backtracking
    let strict (earlier later : Setting) : Setting :=
      if earlier.key = later.key then earlier.merge later else .custom "mismatch" .null
    let fragment : List SettingsFragment.Step :=
      [.collect [.flag .spellChecking true], .insert (.shellVariables (.singleton "NAME" "OLD"))]
    let dictionary : Json :=
      .object [("shellVariables", .object [("NAME", .string "NEW")]),
        ("increaseIndentPattern", .string "^\\s*if\\b")]
    let steps : List Step :=
      [.apply fragment, .apply [.read dictionary],
        .select [.shellVariables, .indentPattern .increase, .commands]]
    let entry : SettingKey × Setting :=
      (.shellVariables, .shellVariables (.singleton "NAME" "NEW"))
    SettingMap.MergesKinds strict ∧
      SettingMap.ofFragmentSteps engine strict fragment =
        SettingMap.ofFragmentSteps engine Setting.merge fragment ∧
      SettingMap.ofSteps engine strict steps = SettingMap.ofSteps engine Setting.merge steps ∧
      entry ∈ (SettingMap.ofSteps engine Setting.merge steps).entries ∧ entry.2.key = entry.1 ∧
      (build engine steps).get? entry.1 = some entry.2 ∧
      (build engine steps).Answers entry.1 entry.2 ∧ (build engine steps).size = 2 := by
  intro engine strict fragment dictionary steps entry
  have merges : SettingMap.MergesKinds strict := by
    intro key earlier later first second
    have same : earlier.key = later.key :=
      (Setting.belongs_iff.mp first).trans (Setting.belongs_iff.mp second).symm
    exact if_pos same
  have stored : entry ∈ (SettingMap.ofSteps engine Setting.merge steps).entries := by
    decide +kernel
  have held : (build engine steps).get? entry.1 = some entry.2 := by decide +kernel
  obtain ⟨⟨_, own⟩, _, answered, kinds⟩ := settings_under_own_keys engine fragment steps
  exact ⟨merges, (kinds strict merges).1, (kinds strict merges).2, stored, own entry stored, held,
    answered entry.1 entry.2 held, by decide +kernel⟩

end EffectiveSettings

end ScopeCascade
