import ScopeCascade.Proofs.Cascade.Hiding
import ScopeCascade.Proofs.Registry.Sync

/-! What the menus of a registry offer: items of the loaded bundles, each where its selector and its
selection requirement let it be, unless a record of higher priority takes its place. -/
namespace ScopeCascade

namespace BundleItem

theorem form_sets {before after : Fields} {field : String} {value : Json}
    (set : form.set before field value = .ok after) :
    (if field = "input" then Json.decodeOptional Json.decodeString value = .ok after.input
      else after.input = before.input) ∧
    (if field = "fallbackInput" then
        Json.decodeOptional Json.decodeString value = .ok after.fallbackInput
      else after.fallbackInput = before.fallbackInput) ∧
    (if field = "selection" then
        Json.decodeOptional SelectionRequirement.ofJson value = .ok after.selection
      else after.selection = before.selection) := by
  unfold form at set
  dsimp only at set
  split at set
  case h_12 =>
    cases set
    simp_all
  all_goals
    obtain ⟨read, decoded, same⟩ := Json.bind_eq_ok_iff.mp set
    cases same
    simp [decoded]

theorem decodeRecord_of_decodeFields {value : Json} {uuid name : String} {fields : Fields}
    (read : decodeFields value = .ok (uuid, name, fields)) :
    Json.decodeRecord form value = .ok fields := by
  obtain ⟨decoded, record, rest⟩ := Json.bind_eq_ok_iff.mp read
  obtain ⟨_, _, rest⟩ := Json.bind_eq_ok_iff.mp rest
  obtain ⟨_, _, rest⟩ := Json.bind_eq_ok_iff.mp rest
  cases rest
  exact record

/-- An optional field that is absent or null leaves its part of the record empty. -/
theorem empty_of_field {α : Type} {decode : Json → Except Json.DecodeError α} {found : Option Json}
    {part : Option α}
    (held : match found with
      | none => part = none
      | some value => Json.decodeOptional decode value = .ok part)
    (blank : found.getD .null = .null) : part = none := by
  cases found with
  | none => exact held
  | some value =>
    cases (blank : value = .null)
    exact (Except.ok.inj held).symm

/-- A command that reads the selection, and nothing in its place, requires one unless it says
otherwise. -/
theorem selection_of_ofJson {value : Json} {item : BundleItem} (read : ofJson value = .ok item)
    (command : item.isCommand) (input : value.field? "input" = some (.string "selection"))
    (fallback : (value.field? "fallbackInput").getD .null = .null)
    (unsaid : (value.field? "selection").getD .null = .null) : item.selection = .required := by
  unfold ofJson at read
  split at read
  · contradiction
  · rename_i uuid name fields decoded
    have record := decodeRecord_of_decodeFields decoded
    cases value with
    | object entries =>
      have inputReads := Json.decodeRecord_field (fun _ _ _ _ set => (form_sets set).1) record
      have fallbackReads := Json.decodeRecord_field (fun _ _ _ _ set => (form_sets set).2.1) record
      have selectionReads := Json.decodeRecord_field (fun _ _ _ _ set => (form_sets set).2.2) record
      rw [input] at inputReads
      have selected : fields.input = some "selection" := (Except.ok.inj inputReads).symm
      have noFallback := empty_of_field fallbackReads fallback
      have noSelection := empty_of_field selectionReads unsaid
      split at read
      · contradiction
      · rename_i kind does
        cases read
        unfold Fields.kind? at does
        split at does
        · cases does
          simp [noSelection, selected, noFallback, ItemKind.impliedSelection]
        · cases does
          contradiction
        · contradiction
    | _ => contradiction

end BundleItem

theorem RecordSpec.commandAt?_offering (item : BundleItem) (uuid : String) :
    (offering item).commandAt? uuid = if uuid = item.uuid then some (.offer item) else none := by
  let entries : InsertionMap String CommandEntry := .singleton item.uuid (.offer item)
  have held : AdditiveKind.commands.entries (offering item).settings = entries :=
    AdditiveKind.commands.entries_of_get? _ rfl
  rw [SettingsFragment.commandAt?, held]
  exact lookup_cons_ite uuid item.uuid _ []

/-- The conditions that the item itself sets. -/
structure BundleItem.OfferedAt (item : BundleItem) (path : ScopePath) (hasSelection : Bool) :
    Prop where
  admitted : item.selection.admits hasSelection
  inScope : ∀ text, item.scope = some text →
    ∃ selector, Selector.parse text = .ok selector ∧ selector.isMatch path

/-- They are the conditions for its record to apply. -/
theorem BundleItem.offeredAt_iff (bundle : String) (item : BundleItem) (path : ScopePath)
    (hasSelection : Bool) :
    item.OfferedAt path hasSelection ↔
      ∃ record, (RecordSpec.ofItem bundle item).compile = .ok record ∧
        ∃ specificity, record.rank? path hasSelection = some specificity := by
  simp only [RecordSpec.compile_eq_ok_iff, CompiledRecord.rank?_eq_some_iff, RecordSpec.ofItem]
  constructor
  · rintro ⟨admitted, inScope⟩
    cases scope : item.scope with
    | none =>
      exact ⟨⟨bundle, none, RecordSpec.offering item, item.selection⟩, ⟨rfl, rfl, rfl, rfl⟩,
        .universal, admitted, rfl⟩
    | some text =>
      obtain ⟨selector, parsed, isMatch⟩ := inScope text scope
      obtain ⟨result, matched⟩ := Option.isSome_iff_exists.mp isMatch
      exact ⟨⟨bundle, some selector, RecordSpec.offering item, item.selection⟩,
        ⟨rfl, rfl, rfl, selector, parsed, rfl⟩, .ofMatch result, admitted, result, matched, rfl⟩
  · rintro ⟨record, ⟨_, _, selection, selected⟩, specificity, admitted, applies⟩
    refine ⟨selection ▸ admitted, ?_⟩
    intro text scope
    rw [scope] at selected
    obtain ⟨selector, parsed, read⟩ := selected
    rw [read] at applies
    obtain ⟨result, matched, _⟩ := applies
    exact ⟨selector, parsed, Option.isSome_iff_exists.mpr ⟨result, matched⟩⟩

/-- The preference was read from JSON. -/
def Preference.IsRead (engine : Pattern.Engine) (preference : Preference) : Prop :=
  ∃ value warnings, Preference.ofJson engine value = .ok (preference, warnings)

theorem Preference.IsRead.onlyHides {engine : Pattern.Engine} {preference : Preference}
    (isRead : preference.IsRead engine) : preference.settings.OnlyHides := by
  obtain ⟨value, warnings, read⟩ := isRead
  unfold Preference.ofJson at read
  split at read
  · contradiction
  · cases read
    exact SettingsFragment.onlyHides_ofJson engine _

theorem Bundle.mem_compilable (bundle : Bundle) (record : CompiledRecord) :
    record ∈ bundle.compilable ↔
      (∃ preference ∈ bundle.preferences,
        (RecordSpec.ofPreference bundle.uuid preference).compile = .ok record) ∨
      ∃ item ∈ bundle.items, (RecordSpec.ofItem bundle.uuid item).compile = .ok record := by
  rw [← compileBundle_fst, Cascade.compileBundle_records, mem_compileAll, RecordSpec.ofBundle]
  simp only [List.mem_append, List.mem_map]
  constructor
  · rintro ⟨_, ⟨preference, member, rfl⟩ | ⟨item, member, rfl⟩, read⟩
    · exact .inl ⟨preference, member, read⟩
    · exact .inr ⟨item, member, read⟩
  · rintro (⟨preference, member, read⟩ | ⟨item, member, read⟩)
    · exact ⟨_, .inl ⟨preference, member, rfl⟩, read⟩
    · exact ⟨_, .inr ⟨item, member, rfl⟩, read⟩

namespace Cascade

variable {cascade : Cascade} {path : ScopePath} {hasSelection : Bool}

theorem Coherent.commandsForScope (coherent : cascade.Coherent) (path : ScopePath)
    (hasSelection : Bool) : (cascade.commandsForScope path hasSelection).1 =
      (cascade.resolveUncached path hasSelection).offers.map Prod.snd := by
  rw [← EffectiveSettings.commands_eq_offers, ← (coherent.resolve path hasSelection).1]
  rfl

theorem Coherent.mem_commandsForScope (coherent : cascade.Coherent) (item : BundleItem) :
    item ∈ (cascade.commandsForScope path hasSelection).1 ↔
      ∃ uuid, (cascade.resolveUncached path hasSelection).commandAt? uuid = some (.offer item) := by
  rw [coherent.commandsForScope, List.mem_map]
  constructor
  · rintro ⟨offer, member, rfl⟩
    exact ⟨offer.1, (EffectiveSettings.mem_offers _ _).mp member⟩
  · rintro ⟨uuid, entry⟩
    exact ⟨(uuid, item), (EffectiveSettings.mem_offers _ _).mpr entry, rfl⟩

theorem Ordered.entry_won (ordered : cascade.Ordered) (path : ScopePath) (hasSelection : Bool)
    (uuid : String) :
    Won (cascade.ranking path hasSelection) (·.commandAt? uuid)
      ((cascade.resolveUncached path hasSelection).commandAt? uuid) :=
  (AdditiveKind.commands.united (ordered.ranking_ascending path hasSelection)).entry uuid

end Cascade

namespace Registry

theorem run_coherent (options : CascadeOptions) (events : List Event) :
    ((ofOptions options).run events).cascade.Coherent := by
  have general (registry : Registry) (coherent : registry.cascade.Coherent) :
      (registry.run events).cascade.Coherent := by
    induction events generalizing registry with
    | nil => exact coherent
    | cons event later ih =>
      apply ih
      rw [event.cascade_perform]
      exact coherent.run _
  exact general (ofOptions options) (Cascade.coherent_ofOptions options)

theorem loaded_of_standing {events : List Event} {bundle : Bundle}
    (member : bundle ∈ standing events) : ∃ event ∈ events, bundle ∈ event.loaded := by
  induction events with
  | nil => contradiction
  | cons event later ih =>
    rcases List.mem_append.mp member with here | there
    · exact ⟨event, List.mem_cons_self, (List.mem_filter.mp here).1⟩
    · obtain ⟨earlier, among, loaded⟩ := ih there
      exact ⟨earlier, List.mem_cons_of_mem event among, loaded⟩

variable {engine : Pattern.Engine} {registry : Registry} {bundles : List Bundle} {path : ScopePath}
  {hasSelection : Bool}

theorem InStep.mem_records (inStep : InStep registry bundles) {record : CompiledRecord} :
    (∃ registered ∈ registry.cascade.records, registered.toCompiledRecord = record) ↔
      ∃ bundle ∈ bundles, record ∈ bundle.compilable := by
  rw [← List.mem_map, inStep.records, List.mem_flatMap]

theorem InStep.offered_by (inStep : InStep registry bundles)
    (readAll : ∀ bundle ∈ bundles, ∀ preference ∈ bundle.preferences, preference.IsRead engine)
    {record : Record} (registered : record ∈ registry.cascade.records) {uuid : String}
    {item : BundleItem} (entry : record.settings.commandAt? uuid = some (.offer item)) :
    uuid = item.uuid ∧ ∃ bundle ∈ bundles, item ∈ bundle.items ∧
      (RecordSpec.ofItem bundle.uuid item).compile = .ok record.toCompiledRecord := by
  obtain ⟨bundle, loaded, compilable⟩ := inStep.mem_records.mp ⟨record, registered, rfl⟩
  rcases (bundle.mem_compilable _).mp compilable with
    ⟨preference, member, compiled⟩ | ⟨own, member, compiled⟩
  · have settings := ((RecordSpec.compile_eq_ok_iff _ _).mp compiled).2.1
    rw [settings] at entry
    cases (readAll bundle loaded preference member).onlyHides uuid _ entry
  · have settings := ((RecordSpec.compile_eq_ok_iff _ _).mp compiled).2.1
    rw [settings, RecordSpec.ofItem, RecordSpec.commandAt?_offering] at entry
    split at entry
    · rename_i same
      cases entry
      exact ⟨same, bundle, loaded, member, compiled⟩
    · contradiction

theorem item?_isSome {bundle : Bundle} (loaded : bundle ∈ registry.toList) {item : BundleItem}
    (member : item ∈ bundle.items) : (registry.item? item.uuid).isSome := by
  have found : (bundle.item? item.uuid).isSome := by
    rw [Bundle.item?, List.find?_isSome]
    exact ⟨item, member, decide_eq_true rfl⟩
  rw [item?, List.findSome?_isSome_iff]
  refine ⟨bundle, loaded, ?_⟩
  rw [Option.isSome_map]
  exact found

/-- An entry that offers an item stands under the item's identifier, and the item is loaded and
meets its own conditions. -/
theorem InStep.offer_sound (inStep : InStep registry bundles)
    (readAll : ∀ bundle ∈ bundles, ∀ preference ∈ bundle.preferences, preference.IsRead engine)
    {uuid : String} {item : BundleItem}
    (offered : (registry.cascade.resolveUncached path hasSelection).commandAt? uuid =
      some (.offer item)) :
    uuid = item.uuid ∧ (∃ bundle ∈ bundles, item ∈ bundle.items) ∧
      item.OfferedAt path hasSelection := by
  have won := inStep.ordered.entry_won path hasSelection uuid
  rw [offered] at won
  obtain ⟨winner, ranked, entry, _⟩ := won
  obtain ⟨registered, applies⟩ := (Cascade.mem_ranking _ _ _ _).mp ranked
  obtain ⟨same, bundle, loaded, member, compiled⟩ := inStep.offered_by readAll registered entry
  refine ⟨same, ⟨bundle, loaded, member⟩, (item.offeredAt_iff bundle.uuid path hasSelection).mpr ?_⟩
  exact ⟨_, compiled, winner.specificity, (CompiledRecord.rank?_eq_some_iff _ _ _ _).mpr applies⟩

theorem InStep.menu_distinct (inStep : InStep registry bundles)
    (coherent : registry.cascade.Coherent)
    (readAll : ∀ bundle ∈ bundles, ∀ preference ∈ bundle.preferences, preference.IsRead engine) :
    ((registry.cascade.commandsForScope path hasSelection).1.map (·.uuid)).Nodup := by
  let effective := registry.cascade.resolveUncached path hasSelection
  have names : (effective.offers.map Prod.snd).map (·.uuid) = effective.offers.map Prod.fst := by
    rw [List.map_map]
    apply List.map_congr_left
    intro offer member
    exact (inStep.offer_sound readAll ((effective.mem_offers offer).mp member)).1.symm
  rw [coherent.commandsForScope, names]
  exact effective.nodup_offers

theorem InStep.exists_own (inStep : InStep registry bundles) {bundle : Bundle}
    (loaded : bundle ∈ bundles) {item : BundleItem}
    (member : item ∈ bundle.items) (offeredAt : item.OfferedAt path hasSelection) :
    ∃ own ∈ registry.cascade.ranking path hasSelection,
      (RecordSpec.ofItem bundle.uuid item).compile = .ok own.record.toCompiledRecord := by
  obtain ⟨record, compiled, specificity, ranked⟩ :=
    (item.offeredAt_iff bundle.uuid path hasSelection).mp offeredAt
  have compilable := (bundle.mem_compilable record).mpr (.inr ⟨item, member, compiled⟩)
  obtain ⟨registered, among, rfl⟩ := inStep.mem_records.mpr ⟨bundle, loaded, compilable⟩
  refine ⟨⟨registered, specificity⟩, (Cascade.mem_ranking _ _ _ _).mpr ⟨among, ?_⟩, compiled⟩
  exact (CompiledRecord.rank?_eq_some_iff _ _ _ _).mp ranked

/-- An item whose record applies is offered, or a record of higher priority has another entry for
it. -/
theorem InStep.offered_or_overruled (inStep : InStep registry bundles) {bundle : String}
    {item : BundleItem} {own : RankedRecord}
    (ranked : own ∈ registry.cascade.ranking path hasSelection)
    (compiled : (RecordSpec.ofItem bundle item).compile = .ok own.record.toCompiledRecord) :
    (registry.cascade.resolveUncached path hasSelection).commandAt? item.uuid =
        some (.offer item) ∨
      ∃ higher ∈ registry.cascade.ranking path hasSelection, own.Below higher ∧
        ∃ entry ≠ .offer item, higher.record.settings.commandAt? item.uuid = some entry := by
  have ownEntry : own.record.settings.commandAt? item.uuid = some (.offer item) := by
    rw [((RecordSpec.compile_eq_ok_iff _ _).mp compiled).2.1, RecordSpec.ofItem,
      RecordSpec.commandAt?_offering, if_pos rfl]
  -- Some record has an entry, so one wins: the own record or one above it.
  have won := inStep.ordered.entry_won path hasSelection item.uuid
  cases inForce : (registry.cascade.resolveUncached path hasSelection).commandAt? item.uuid with
  | none =>
    rw [inForce] at won
    have silent : own.record.settings.commandAt? item.uuid = none := won own ranked
    rw [silent] at ownEntry
    contradiction
  | some entry =>
    rw [inForce] at won
    obtain ⟨winner, rankedWinner, winnerEntry, greatest⟩ := won
    by_cases same : entry = .offer item
    · exact .inl (congrArg some same)
    · rcases greatest own ranked (Option.isSome_iff_exists.mpr ⟨_, ownEntry⟩) with rfl | below
      · have entries := ownEntry.symm.trans winnerEntry
        exact absurd (Option.some.inj entries).symm same
      · exact .inr ⟨winner, rankedWinner, below, entry, same, winnerEntry⟩

/-- A menu lists items of the loaded bundles under their own conditions, no identifier twice. An
item that meets its conditions is missing only if a record of higher priority has another entry for
it. -/
theorem menu_sound_and_complete (engine : Pattern.Engine) (options : CascadeOptions)
    (events : List Event)
    (readAll : ∀ event ∈ events, ∀ bundle ∈ event.loaded, ∀ preference ∈ bundle.preferences,
      preference.IsRead engine) :
    let reached := (ofOptions options).run events
    ∀ path hasSelection,
      let menu := (reached.cascade.commandsForScope path hasSelection).1
      let ranking := reached.cascade.ranking path hasSelection
      (∀ item ∈ menu, (∃ bundle ∈ reached.toList, item ∈ bundle.items) ∧
          (reached.item? item.uuid).isSome ∧ item.OfferedAt path hasSelection) ∧
        (menu.map (·.uuid)).Nodup ∧
        (∀ bundle ∈ reached.toList, ∀ item ∈ bundle.items, item.OfferedAt path hasSelection →
          (∃ own ∈ ranking,
            (RecordSpec.ofItem bundle.uuid item).compile = .ok own.record.toCompiledRecord) ∧
          ∀ own ∈ ranking,
            (RecordSpec.ofItem bundle.uuid item).compile = .ok own.record.toCompiledRecord →
            item ∉ menu →
            ∃ higher ∈ ranking, own.Below higher ∧
              ∃ entry ≠ .offer item,
                higher.record.settings.commandAt? item.uuid = some entry) ∧
        ∀ value item, BundleItem.ofJson value = .ok item → item.isCommand →
          value.field? "input" = some (.string "selection") →
          (value.field? "fallbackInput").getD .null = .null →
          (value.field? "selection").getD .null = .null → item ∈ menu → hasSelection = true := by
  intro reached path hasSelection menu ranking
  have coherent : reached.cascade.Coherent := run_coherent options events
  have inStep : InStep reached (standing events) := (InStep.fresh options).run events
  have readStanding : ∀ bundle ∈ standing events, ∀ preference ∈ bundle.preferences,
      preference.IsRead engine := by
    intro bundle standing
    obtain ⟨event, among, loaded⟩ := loaded_of_standing standing
    exact readAll event among bundle loaded
  have sound : ∀ item ∈ menu, (∃ bundle ∈ reached.toList, item ∈ bundle.items) ∧
      (reached.item? item.uuid).isSome ∧ item.OfferedAt path hasSelection := by
    intro item offered
    obtain ⟨uuid, entry⟩ := (coherent.mem_commandsForScope item).mp offered
    obtain ⟨_, ⟨bundle, loaded, among⟩, offeredAt⟩ := inStep.offer_sound readStanding entry
    rw [← inStep.toList] at loaded
    exact ⟨⟨bundle, loaded, among⟩, item?_isSome loaded among, offeredAt⟩
  refine ⟨sound, inStep.menu_distinct coherent readStanding, ?_, ?_⟩
  · intro bundle loaded item member offeredAt
    rw [inStep.toList] at loaded
    refine ⟨inStep.exists_own loaded member offeredAt, ?_⟩
    intro own ranked compiled missing
    apply (inStep.offered_or_overruled ranked compiled).resolve_left
    intro offered
    exact missing ((coherent.mem_commandsForScope item).mpr ⟨item.uuid, offered⟩)
  · intro value item read command input fallback unsaid offered
    have admitted := (sound item offered).2.2.admitted
    rw [BundleItem.selection_of_ofJson read command input fallback unsaid] at admitted
    exact admitted

theorem menu_of_one_bundle :
    let item (uuid : String) : BundleItem :=
      { uuid, name := uuid, scope := some "source", kind := .snippet "" }
    let engine : Pattern.Engine := .backtracking
    let settings : Json := .object [("commands", .object [("second", .bool false)])]
    let preference : Preference :=
      { scope := some "source.c", settings := (SettingsFragment.ofJson engine settings).1 }
    let bundle : Bundle :=
      { uuid := "menu", name := "menu", path := .ofText "/menu",
        preferences := [preference], items := [item "first", item "second"] }
    let reached := (ofOptions {}).run [.load bundle]
    ∃ path, ScopePath.parse "source.c" = .ok path ∧ preference.IsRead engine ∧
      (reached.cascade.commandsForScope path false).1 = [item "first"] ∧
      (reached.item? "first").isSome ∧ (item "first").OfferedAt path false := by
  intro item engine settings preference bundle reached
  let path : ScopePath := ⟨[⟨[⟨"source".toList, by decide⟩, ⟨"c".toList, by decide⟩], by decide⟩],
    by decide⟩
  have isRead : preference.IsRead engine := by
    refine ⟨.object [("scope", .string "source.c"), ("settings", settings)], [], ?_⟩
    unfold preference settings engine
    cbv
  have menu : (reached.cascade.commandsForScope path false).1 = [item "first"] := by
    unfold reached bundle preference settings engine item path
    cbv
  have readAll : ∀ event ∈ [Event.load bundle], ∀ loaded ∈ event.loaded,
      ∀ preference ∈ loaded.preferences, preference.IsRead engine := by
    simpa [Event.loaded, bundle] using isRead
  obtain ⟨sound, _⟩ := menu_sound_and_complete engine {} [.load bundle] readAll path false
  have first : item "first" ∈ (reached.cascade.commandsForScope path false).1 := by
    rw [menu]
    exact List.mem_singleton_self _
  obtain ⟨_, found, offeredAt⟩ := sound (item "first") first
  exact ⟨path, rfl, isRead, menu, found, offeredAt⟩

end Registry

end ScopeCascade
