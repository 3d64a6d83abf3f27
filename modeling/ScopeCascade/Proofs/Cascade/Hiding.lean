import Mathlib
import ScopeCascade.Pattern.Backtracking
import ScopeCascade.Proofs.Cascade.Winner

/-! Preferences that hide items. One that was read from JSON offers nothing; but a name keeps its
first place among the entries, so an item that it hides in vain may come earlier in the list. -/
namespace ScopeCascade

/-- The setting has no entry that offers an item. -/
def Setting.OnlyHides : Setting → Prop
  | .commands entries => ∀ uuid entry, entries.get? uuid = some entry → entry = .hide
  | _ => True

namespace Setting

theorem OnlyHides.merge {earlier later : Setting} (hidesEarlier : earlier.OnlyHides)
    (hidesLater : later.OnlyHides) : (Setting.merge earlier later).OnlyHides := by
  cases later with
  | commands more =>
    cases earlier with
    | commands held =>
      intro uuid entry found
      rw [InsertionMap.get?_union, Option.or_eq_some_iff] at found
      rcases found with fromLater | ⟨_, fromEarlier⟩
      · exact hidesLater uuid entry fromLater
      · exact hidesEarlier uuid entry fromEarlier
    | _ => exact hidesLater
  | _ => cases earlier <;> trivial

theorem onlyHides_of_key {setting : Setting} (other : setting.key ≠ .commands) :
    setting.OnlyHides := by
  cases setting with
  | commands entries => contradiction
  | _ => trivial

theorem onlyHides_exclusions (entries : List (String × Json)) :
    (commands (exclusionsOfJson entries).1).OnlyHides := by
  intro uuid entry found
  have lookup := (InsertionMap.get?_ofList _ uuid).symm.trans found
  obtain ⟨earlier, later, split, _⟩ := List.lookup_eq_some_iff.mp lookup
  have member : (uuid, entry) ∈ entries.flatMap fun entry => (exclusionOfJson entry).1 := by
    rw [← List.mem_reverse, split]
    simp
  obtain ⟨field, _, excluded⟩ := List.mem_flatMap.mp member
  unfold exclusionOfJson at excluded
  split at excluded
  · exact (Prod.mk.inj (List.mem_singleton.mp excluded)).2
  · contradiction

theorem onlyHides_ofJson {engine : Pattern.Engine} {key : SettingKey} {value : Json}
    {setting : Setting} (read : (Setting.ofJson engine key value).1 = some setting) :
    setting.OnlyHides := by
  by_cases commands : key = .commands
  · subst commands
    dsimp only [Setting.ofJson] at read
    split at read
    · cases Option.some.inj read
      exact onlyHides_exclusions _
    · contradiction
  · apply onlyHides_of_key
    rw [key_ofJson read]
    exact commands

end Setting

theorem SettingMap.onlyHides_addAll {map : SettingMap} {settings : List Setting}
    (held : ∀ setting, map.get? .commands = some setting → setting.OnlyHides)
    (each : ∀ setting ∈ settings, setting.OnlyHides) :
    ∀ setting, (map.addAll settings).get? .commands = some setting → setting.OnlyHides := by
  induction settings generalizing map with
  | nil => exact held
  | cons first rest ih =>
    obtain ⟨hides, later⟩ := List.forall_mem_cons.mp each
    refine ih ?_ later
    intro setting found
    rw [get?_add] at found
    split at found
    · cases Option.some.inj found
      unfold Setting.laidOver
      cases before : map.get? .commands with
      | none => exact hides
      | some earlier => exact (held earlier before).merge hides
    · exact held setting found

namespace SettingsFragment

/-- What the fragment says of an item. -/
def commandAt? (fragment : SettingsFragment) (uuid : String) : Option CommandEntry :=
  (AdditiveKind.commands.entries fragment.settings).get? uuid

def OnlyHides (fragment : SettingsFragment) : Prop :=
  ∀ uuid entry, fragment.commandAt? uuid = some entry → entry = .hide

theorem onlyHides_of_settings {fragment : SettingsFragment}
    (hides : ∀ setting, fragment.get? .commands = some setting → setting.OnlyHides) :
    fragment.OnlyHides := by
  intro uuid entry found
  unfold commandAt? at found
  cases held : fragment.get? .commands with
  | none =>
    rw [AdditiveKind.commands.entries_of_absent fragment.settings held] at found
    contradiction
  | some setting =>
    obtain ⟨entries, rfl⟩ := AdditiveKind.commands.exists_entries setting (fragment.keyed _ _ held)
    rw [AdditiveKind.commands.entries_of_get? fragment.settings held] at found
    exact hides _ held uuid entry found

theorem onlyHides_ofJson (engine : Pattern.Engine) (value : Json) :
    (ofJson engine value).1.OnlyHides := by
  unfold ofJson
  split
  · apply onlyHides_of_settings
    intro setting found
    contradiction
  · apply onlyHides_of_settings
    apply SettingMap.onlyHides_addAll
    · intro setting found
      contradiction
    · intro setting member
      obtain ⟨result, read, some⟩ := List.mem_filterMap.mp member
      obtain ⟨field, _, rfl⟩ := List.mem_map.mp read
      exact Setting.onlyHides_ofJson some

end SettingsFragment

theorem filterMap_sublist {α β : Type} {fewer more : α → Option β} (keys : List α)
    (kept : ∀ key value, fewer key = some value → more key = some value) :
    (keys.filterMap fewer).Sublist (keys.filterMap more) := by
  induction keys with
  | nil => exact .slnil
  | cons key rest ih =>
    cases first : fewer key with
    | none =>
      rw [List.filterMap_cons_none first]
      exact ih.trans ((List.sublist_cons_self key rest).filterMap more)
    | some value =>
      rw [List.filterMap_cons_some first, List.filterMap_cons_some (kept key value first)]
      exact ih.cons_cons value

/-- New keys that come in the middle stand behind those before them, and the others keep their
order. -/
theorem eraseDups_middle {κ : Type} [DecidableEq κ] (first middle last : List κ) :
    (first ++ (middle ++ last)).eraseDups = first.eraseDups ++
      ((middle.removeAll first).eraseDups ++
        (last.removeAll first).eraseDups.removeAll (middle.removeAll first)) := by
  have rest : (middle ++ last).removeAll first = middle.removeAll first ++ last.removeAll first :=
    List.filter_append ..
  rw [List.eraseDups_append, rest, List.eraseDups_append]
  congr 2
  exact eraseDups_filter _ _

namespace EffectiveSettings

/-- What the settings say of an item. -/
def commandAt? (effective : EffectiveSettings) (uuid : String) : Option CommandEntry :=
  (AdditiveKind.commands.entries effective.settings).get? uuid

/-- The item that is offered under a name. -/
def offer? (effective : EffectiveSettings) (uuid : String) : Option (String × BundleItem) :=
  ((effective.commandAt? uuid).bind offered?).map fun item => (uuid, item)

/-- The items that are offered, with their names in the command list. -/
def offers (effective : EffectiveSettings) : List (String × BundleItem) :=
  (AdditiveKind.commands.entries effective.settings).keys.filterMap effective.offer?

theorem offer?_eq_some_iff (effective : EffectiveSettings) (uuid : String)
    (offer : String × BundleItem) :
    effective.offer? uuid = some offer ↔
      offer.1 = uuid ∧ effective.commandAt? uuid = some (.offer offer.2) := by
  unfold offer?
  cases effective.commandAt? uuid with
  | none => simp
  | some entry =>
    cases entry with
    | hide => simp [offered?]
    | offer item => simp [offered?, Prod.ext_iff, eq_comm]

theorem mem_offers (effective : EffectiveSettings) (offer : String × BundleItem) :
    offer ∈ effective.offers ↔ effective.commandAt? offer.1 = some (.offer offer.2) := by
  rw [offers, List.mem_filterMap]
  constructor
  · rintro ⟨uuid, _, found⟩
    obtain ⟨rfl, entry⟩ := (effective.offer?_eq_some_iff _ _).mp found
    exact entry
  · intro entry
    refine ⟨offer.1, ?_, (effective.offer?_eq_some_iff _ _).mpr ⟨rfl, entry⟩⟩
    apply Classical.not_not.mp
    intro absent
    have none := (InsertionMap.get?_eq_none_iff _ _).mpr absent
    rw [commandAt?, none] at entry
    contradiction

theorem commands_eq_offers (effective : EffectiveSettings) :
    effective.commands = effective.offers.map Prod.snd := by
  rw [commands_eq, offers, List.map_filterMap]
  congr 1
  funext uuid
  unfold offer? commandAt?
  rw [Option.map_map]
  exact Option.map_id'.symm

theorem nodup_offers (effective : EffectiveSettings) : (effective.offers.map Prod.fst).Nodup := by
  let names := (AdditiveKind.commands.entries effective.settings).keys
  have distinct : names.Nodup := (AdditiveKind.commands.entries effective.settings).distinct
  have chosen : (names.filterMap fun uuid => (effective.offer? uuid).map Prod.fst).Sublist
      (names.filterMap some) := by
    apply filterMap_sublist
    intro uuid name found
    obtain ⟨offer, offered, rfl⟩ := Option.map_eq_some_iff.mp found
    rw [((effective.offer?_eq_some_iff uuid offer).mp offered).1]
  rw [List.filterMap_some] at chosen
  rw [offers, List.map_filterMap]
  exact distinct.sublist chosen

theorem commandAt?_append (lower higher : List SettingsFragment) (uuid : String) :
    (ofFragments (lower ++ higher)).commandAt? uuid =
      ((ofFragments higher).commandAt? uuid).or ((ofFragments lower).commandAt? uuid) := by
  simp only [commandAt?, AdditiveKind.get?_entries_ofFragments, List.reverse_append,
    List.findSome?_append]

theorem commandAt?_singleton (fragment : SettingsFragment) (uuid : String) :
    (ofFragments [fragment]).commandAt? uuid = fragment.commandAt? uuid := by
  rw [commandAt?, AdditiveKind.get?_entries_ofFragments, List.reverse_singleton,
    List.findSome?_singleton]
  rfl

section Hiding

variable {lower higher : List SettingsFragment} {hides : SettingsFragment}

theorem commandAt?_middle (uuid : String) :
    (ofFragments (lower ++ hides :: higher)).commandAt? uuid =
      ((ofFragments higher).commandAt? uuid).or
        ((hides.commandAt? uuid).or ((ofFragments lower).commandAt? uuid)) := by
  have parts : lower ++ hides :: higher = lower ++ ([hides] ++ higher) := rfl
  rw [parts, commandAt?_append, commandAt?_append, commandAt?_singleton, Option.or_assoc]

/-- Only what was offered anyway is offered, and what is hidden only if it is offered above. -/
theorem offered_of_hiding (only : hides.OnlyHides) {uuid : String} {item : BundleItem}
    (offered : (ofFragments (lower ++ hides :: higher)).commandAt? uuid = some (.offer item)) :
    (ofFragments (lower ++ higher)).commandAt? uuid = some (.offer item) ∧
      (hides.commandAt? uuid = none ∨
        (ofFragments higher).commandAt? uuid = some (.offer item)) := by
  rw [commandAt?_middle] at offered
  rw [commandAt?_append]
  cases above : (ofFragments higher).commandAt? uuid with
  | some entry =>
    rw [above, Option.some_or] at offered
    exact ⟨offered, .inr offered⟩
  | none =>
    rw [above, Option.none_or] at offered
    cases hidden : hides.commandAt? uuid with
    | none =>
      rw [hidden, Option.none_or] at offered
      exact ⟨offered, .inl rfl⟩
    | some entry =>
      rw [hidden, only uuid entry hidden, Option.some_or] at offered
      cases Option.some.inj offered

theorem offered_above (only : hides.OnlyHides) {uuid : String} {item : BundleItem}
    (offered : (ofFragments (lower ++ hides :: higher)).commandAt? uuid = some (.offer item))
    (named : hides.commandAt? uuid ≠ none) :
    hides.commandAt? uuid = some .hide ∧
      ∃ fragment ∈ higher, fragment.commandAt? uuid = some (.offer item) := by
  constructor
  · obtain ⟨entry, found⟩ := Option.ne_none_iff_exists'.mp named
    rw [found, only uuid entry found]
  · have above := (offered_of_hiding only offered).2.resolve_left named
    rw [commandAt?, AdditiveKind.get?_entries_ofFragments] at above
    obtain ⟨fragment, member, found⟩ := List.exists_of_findSome?_eq_some above
    exact ⟨fragment, List.mem_reverse.mp member, found⟩

theorem subperm_of_hiding (only : hides.OnlyHides) :
    (ofFragments (lower ++ hides :: higher)).offers.Subperm
      (ofFragments (lower ++ higher)).offers := by
  have distinct : (ofFragments (lower ++ hides :: higher)).offers.Nodup :=
    List.Pairwise.of_map Prod.fst (fun _ _ differ same => differ (congrArg Prod.fst same))
      (nodup_offers _)
  apply List.subperm_of_subset distinct
  intro offer member
  rw [mem_offers] at member ⊢
  exact (offered_of_hiding only member).1

theorem hidden_of_missing (only : hides.OnlyHides) {offer : String × BundleItem}
    (held : offer ∈ (ofFragments (lower ++ higher)).offers)
    (missing : offer ∉ (ofFragments (lower ++ hides :: higher)).offers) :
    hides.commandAt? offer.1 = some .hide := by
  cases named : hides.commandAt? offer.1 with
  | some entry => rw [only _ _ named]
  | none =>
    rw [mem_offers, commandAt?_append] at held
    rw [mem_offers, commandAt?_middle, named, Option.none_or] at missing
    contradiction

/-- The names that only the hiding fragment adds stand behind those from below, all others in
order. -/
theorem order_of_hiding (only : hides.OnlyHides) :
    ∃ first early rest,
      (ofFragments (lower ++ hides :: higher)).offers = first ++ (early ++ rest) ∧
      (first ++ rest).Sublist (ofFragments (lower ++ higher)).offers ∧
      ∀ offer ∈ early, hides.commandAt? offer.1 ≠ none ∧
        (∀ fragment ∈ lower, fragment.commandAt? offer.1 = none) ∧
        (ofFragments (lower ++ hides :: higher)).commandAt? offer.1 = some (.offer offer.2) := by
  let names (fragment : SettingsFragment) := (AdditiveKind.commands.entries fragment.settings).keys
  let below := lower.flatMap names
  let new := (names hides).removeAll below
  let above := (higher.flatMap names).removeAll below
  let before := ofFragments (lower ++ higher)
  let after := ofFragments (lower ++ hides :: higher)
  have keysBefore : (AdditiveKind.commands.entries before.settings).keys =
      below.eraseDups ++ above.eraseDups := by
    rw [AdditiveKind.keys_entries_ofFragments, List.flatMap_append, List.eraseDups_append]
  have keysAfter : (AdditiveKind.commands.entries after.settings).keys =
      below.eraseDups ++ (new.eraseDups ++ above.eraseDups.removeAll new) := by
    rw [AdditiveKind.keys_entries_ofFragments, List.flatMap_append, List.flatMap_cons]
    exact eraseDups_middle _ _ _
  have kept : ∀ uuid offer, after.offer? uuid = some offer → before.offer? uuid = some offer := by
    intro uuid offer found
    rw [offer?_eq_some_iff] at found ⊢
    exact ⟨found.1, (offered_of_hiding only found.2).1⟩
  refine ⟨below.eraseDups.filterMap after.offer?, new.eraseDups.filterMap after.offer?,
    (above.eraseDups.removeAll new).filterMap after.offer?, ?_, ?_, ?_⟩
  · rw [offers, keysAfter, List.filterMap_append, List.filterMap_append]
  · rw [offers, keysBefore, List.filterMap_append]
    apply (filterMap_sublist _ kept).append
    exact (List.filter_sublist.filterMap _).trans (filterMap_sublist _ kept)
  · intro offer early
    obtain ⟨uuid, member, found⟩ := List.mem_filterMap.mp early
    obtain ⟨rfl, entry⟩ := (offer?_eq_some_iff _ _ _).mp found
    obtain ⟨named, unknown⟩ := List.mem_filter.mp (List.mem_eraseDups.mp member)
    simp only [List.elem_eq_mem, Bool.not_eq_true', decide_eq_false_iff_not] at unknown
    refine ⟨?_, ?_, entry⟩
    · intro silent
      exact (InsertionMap.get?_eq_none_iff _ _).mp silent named
    · intro fragment among
      apply (InsertionMap.get?_eq_none_iff _ _).mpr
      intro present
      exact unknown (List.mem_flatMap.mpr ⟨fragment, among, present⟩)

end Hiding

end EffectiveSettings

namespace RankedRecord

/-- A record of higher priority offers the item. -/
def OfferedAbove (own : RankedRecord) (others : List RankedRecord) (offer : String × BundleItem) :
    Prop :=
  ∃ higher ∈ others, own.Below higher ∧
    higher.record.settings.commandAt? offer.1 = some (.offer offer.2)

/-- The record hides an item that is offered above, and no record below has an entry for it. -/
structure HidesInVain (own : RankedRecord) (others : List RankedRecord)
    (offer : String × BundleItem) : Prop where
  hides : own.record.settings.commandAt? offer.1 = some .hide
  below : ∀ lower ∈ others, lower.Below own →
    lower.record.settings.commandAt? offer.1 = none
  above : own.OfferedAbove others offer

/-- What a record that only hides items does to a list of offers. Nothing is new, and what is gone
is what it hides, unless that is offered above. The rest is in order, but for some items that it
hides in vain and that stand earlier, side by side. -/
structure Thins (own : RankedRecord) (others : List RankedRecord)
    (before after : List (String × BundleItem)) : Prop where
  fewer : after.Subperm before
  gone : ∀ offer ∈ before, offer ∉ after → own.record.settings.commandAt? offer.1 = some .hide
  left : ∀ offer ∈ after, own.record.settings.commandAt? offer.1 = some .hide →
    own.OfferedAbove others offer
  order : ∃ first early rest, after = first ++ (early ++ rest) ∧ (first ++ rest).Sublist before ∧
    ∀ offer ∈ early, own.HidesInVain others offer

/-- The offers that a ranking comes to. -/
def offers (ranking : List RankedRecord) : List (String × BundleItem) :=
  (EffectiveSettings.ofFragments (ranking.map (·.record.settings))).offers

theorem thins_of_middle {lower higher : List RankedRecord} {own : RankedRecord}
    (sorted : (lower ++ own :: higher).Pairwise Below)
    (only : own.record.settings.OnlyHides) :
    own.Thins (lower ++ higher) (offers (lower ++ higher)) (offers (lower ++ own :: higher)) := by
  have greater : ∀ other ∈ higher, own.Below other :=
    (List.pairwise_cons.mp (List.pairwise_append.mp sorted).2.1).1
  have above {offer : String × BundleItem}
      (offered : (EffectiveSettings.ofFragments (lower.map (·.record.settings) ++
        own.record.settings :: higher.map (·.record.settings))).commandAt? offer.1 =
          some (.offer offer.2))
      (named : own.record.settings.commandAt? offer.1 ≠ none) :
      own.record.settings.commandAt? offer.1 = some .hide ∧
        own.OfferedAbove (lower ++ higher) offer := by
    obtain ⟨hide, fragment, member, offering⟩ := EffectiveSettings.offered_above only offered named
    obtain ⟨ranked, among, rfl⟩ := List.mem_map.mp member
    exact ⟨hide, ranked, List.mem_append_right lower among, greater ranked among, offering⟩
  rw [offers, offers, List.map_append, List.map_append, List.map_cons]
  constructor
  · exact EffectiveSettings.subperm_of_hiding only
  · intro offer held missing
    exact EffectiveSettings.hidden_of_missing only held missing
  · intro offer held hides
    rw [EffectiveSettings.mem_offers] at held
    exact (above held (hides ▸ Option.some_ne_none _)).2
  · obtain ⟨first, early, rest, parts, kept, inVain⟩ :=
      @EffectiveSettings.order_of_hiding (lower.map (·.record.settings))
        (higher.map (·.record.settings)) _ only
    refine ⟨first, early, rest, parts, kept, ?_⟩
    intro offer member
    obtain ⟨named, silent, offered⟩ := inVain offer member
    obtain ⟨hides, offeredAbove⟩ := above offered named
    refine ⟨hides, ?_, offeredAbove⟩
    intro other among below
    rcases List.mem_append.mp among with inLower | inHigher
    · exact silent _ (List.mem_map_of_mem inLower)
    · exact absurd below (greater other inHigher).asymm

end RankedRecord

namespace Cascade

/-- The items offered at a path, with their names in the command list. -/
def offers (cascade : Cascade) (path : ScopePath) (hasSelection : Bool) :
    List (String × BundleItem) :=
  (cascade.resolve path hasSelection).1.settings.offers

theorem Coherent.offers_eq {cascade : Cascade} (coherent : cascade.Coherent) (path : ScopePath)
    (hasSelection : Bool) : cascade.offers path hasSelection =
      RankedRecord.offers (cascade.ranking path hasSelection) := by
  rw [offers, (coherent.resolve path hasSelection).1]
  rfl

/-- The record that a spec becomes when it is registered next, if it applies at the path. -/
def incoming? (cascade : Cascade) (spec : RecordSpec) (path : ScopePath) (hasSelection : Bool) :
    Option RankedRecord :=
  spec.compile.toOption.bind fun record =>
    RankedRecord.ofRecord? path hasSelection { record with order := cascade.nextOrder }

theorem settings_of_incoming? {cascade : Cascade} {spec : RecordSpec} {path : ScopePath}
    {hasSelection : Bool} {own : RankedRecord}
    (incoming : cascade.incoming? spec path hasSelection = some own) :
    own.record.settings = spec.settings := by
  obtain ⟨record, compiled, ranked⟩ := Option.bind_eq_some_iff.mp incoming
  rw [((RankedRecord.ofRecord?_eq_some_iff _ _ _ _).mp ranked).1]
  cases result : spec.compile with
  | error error =>
    rw [result] at compiled
    contradiction
  | ok read =>
    rw [result] at compiled
    cases compiled
    exact ((spec.compile_eq_ok_iff _).mp result).2.1

theorem filterMap_records_register (cascade : Cascade) (spec : RecordSpec) (path : ScopePath)
    (hasSelection : Bool) :
    (cascade.register spec).2.records.filterMap (RankedRecord.ofRecord? path hasSelection) =
      cascade.records.filterMap (RankedRecord.ofRecord? path hasSelection) ++
        (cascade.incoming? spec path hasSelection).toList := by
  unfold register incoming?
  cases spec.compile with
  | error error => exact (List.append_nil _).symm
  | ok record =>
    let added : Record := { record with order := cascade.nextOrder }
    have records : (cascade.push record).invalidate.records = cascade.records ++ [added] := rfl
    have single : [added].filterMap (RankedRecord.ofRecord? path hasSelection) =
        (RankedRecord.ofRecord? path hasSelection added).toList := by
      cases ranked : RankedRecord.ofRecord? path hasSelection added <;> simp [ranked]
    rw [records, List.filterMap_append, single]
    rfl

/-- A new record takes its place in the ranking and leaves the others in order. -/
theorem Ordered.ranking_register {cascade : Cascade} (ordered : cascade.Ordered) (spec : RecordSpec)
    (path : ScopePath) (hasSelection : Bool) :
    match cascade.incoming? spec path hasSelection with
    | none =>
      (cascade.register spec).2.ranking path hasSelection = cascade.ranking path hasSelection
    | some own => ∃ lower higher, cascade.ranking path hasSelection = lower ++ higher ∧
      (cascade.register spec).2.ranking path hasSelection = lower ++ own :: higher := by
  have applying := cascade.filterMap_records_register spec path hasSelection
  have sorted := (ordered.perform (.register spec)).ranking_ascending path hasSelection
  change ((cascade.register spec).2.ranking path hasSelection).Pairwise _ at sorted
  cases incoming : cascade.incoming? spec path hasSelection with
  | none =>
    rw [incoming] at applying
    rw [ranking, rankRecords, applying]
    exact congrArg (List.mergeSort · _) (List.append_nil _)
  | some own =>
    rw [incoming] at applying
    have members : ((cascade.register spec).2.ranking path hasSelection).Perm
        (own :: cascade.ranking path hasSelection) := by
      have added := List.perm_append_singleton own
        (cascade.records.filterMap (RankedRecord.ofRecord? path hasSelection))
      rw [ranking, rankRecords, applying]
      exact (List.mergeSort_perm _ _).trans
        (added.trans ((List.mergeSort_perm _ _).symm.cons own))
    have member : own ∈ (cascade.register spec).2.ranking path hasSelection :=
      members.mem_iff.mpr List.mem_cons_self
    obtain ⟨lower, higher, split⟩ := List.append_of_mem member
    rw [split] at members sorted
    have others : (lower ++ higher).Perm (cascade.ranking path hasSelection) :=
      (List.perm_middle.symm.trans members).cons_inv
    have sortedOthers : (lower ++ higher).Pairwise RankedRecord.Below :=
      sorted.sublist ((List.Sublist.refl lower).append (List.sublist_cons_self own higher))
    -- Without the new record both rankings list the same records in strict order.
    exact ⟨lower, higher, RankedRecord.ranking_unique (ordered.ranking_ascending path hasSelection)
      sortedOthers others.symm, split⟩

/-- A preference that was read from JSON only thins the command list, and leaves it as it is where
the preference does not apply. -/
theorem preference_only_hides (engine : Pattern.Engine) (options : CascadeOptions)
    (operations : List Operation) (bundle : String) (selector : Option String) (value : Json) :
    let reached := ((ofOptions options).run operations).2
    let settings := (SettingsFragment.ofJson engine value).1
    let spec : RecordSpec := .ofPreference bundle { scope := selector, settings }
    let next := (reached.register spec).2
    ∀ path hasSelection,
      let before := reached.offers path hasSelection
      let after := next.offers path hasSelection
      (reached.commandsForScope path hasSelection).1 = before.map Prod.snd ∧
        (next.commandsForScope path hasSelection).1 = after.map Prod.snd ∧
        match reached.incoming? spec path hasSelection with
        | none => after = before
        | some own => own.Thins (reached.ranking path hasSelection) before after := by
  intro reached settings spec next path hasSelection before after
  have ordered : reached.Ordered := run_ordered options operations
  have coherent : reached.Coherent := run_coherent options operations
  have coherentNext : next.Coherent := coherent.perform (.register spec)
  have offersBefore : before = _ := coherent.offers_eq path hasSelection
  have offersAfter : after = _ := coherentNext.offers_eq path hasSelection
  have ranking := ordered.ranking_register spec path hasSelection
  have sorted : (next.ranking path hasSelection).Pairwise RankedRecord.Below :=
    (ordered.perform (.register spec)).ranking_ascending path hasSelection
  refine ⟨EffectiveSettings.commands_eq_offers _, EffectiveSettings.commands_eq_offers _, ?_⟩
  rw [offersBefore, offersAfter]
  cases incoming : reached.incoming? spec path hasSelection with
  | none =>
    rw [incoming] at ranking
    exact congrArg RankedRecord.offers ranking
  | some own =>
    rw [incoming] at ranking
    obtain ⟨lower, higher, split, middle⟩ := ranking
    have only : own.record.settings.OnlyHides := by
      rw [settings_of_incoming? incoming]
      exact SettingsFragment.onlyHides_ofJson engine value
    rw [middle] at sorted
    dsimp only
    rw [split, middle]
    exact RankedRecord.thins_of_middle sorted only

/-- An entry without a selector ranks below both items and keeps the second one's name in front. -/
theorem hidden_in_vain_comes_first :
    let item (uuid : String) : BundleItem :=
      { uuid, name := uuid, scope := some "source", kind := .snippet "" }
    let reached := ((ofOptions {}).run
      [.register (.ofItem "menu" (item "first")), .register (.ofItem "menu" (item "second"))]).2
    let value : Json := .object [("commands", .object [("second", .bool false)])]
    let settings := (SettingsFragment.ofJson .backtracking value).1
    let next := (reached.register (.ofPreference "menu" { settings })).2
    ∃ path, ScopePath.parse "source" = .ok path ∧
      (reached.commandsForScope path false).1 = [item "first", item "second"] ∧
      (next.commandsForScope path false).1 = [item "second", item "first"] ∧
      ¬ (next.commandsForScope path false).1.Sublist (reached.commandsForScope path false).1 := by
  refine ⟨⟨[⟨[⟨"source".toList, by decide⟩], by decide⟩], by decide⟩, rfl, ?_⟩
  suffices lists : _ ∧ _ by
    refine ⟨lists.1, lists.2, ?_⟩
    rw [lists.1, lists.2]
    decide
  cbv

end Cascade

end ScopeCascade
