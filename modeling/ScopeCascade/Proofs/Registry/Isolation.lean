import ScopeCascade.Proofs.Cascade.Rearrangement
import ScopeCascade.Proofs.Registry.Sync

/-! Bundles do not disturb each other: while no record of a bundle applies at a path, nothing that
is done with the bundle changes what the path gets. -/
namespace ScopeCascade

namespace Cascade

variable {cascade : Cascade} {bundle : String} {path : ScopePath} {hasSelection : Bool}

/-- No record of the bundle applies at the path. -/
def Silent (cascade : Cascade) (bundle : String) (path : ScopePath) (hasSelection : Bool) : Prop :=
  ∀ record ∈ cascade.records, record.bundle = bundle → record.rank? path hasSelection = none

namespace Operation

/-- The bundle whose records an operation adds or removes. -/
def owner? : Operation → Option String
  | register spec => some spec.bundle
  | registerBundle bundle | replaceBundle bundle => some bundle.uuid
  | unregisterBundle bundle => some bundle
  | _ => none

theorem owner?_of_drops {operation : Operation} {uuid : String} (drops : operation.drops uuid) :
    operation.owner? = some uuid := by
  cases operation with
  | replaceBundle bundle => exact congrArg some (of_decide_eq_true drops)
  | unregisterBundle bundle => exact congrArg some (of_decide_eq_true drops)
  | _ => contradiction

/-- The operation is about the bundle, or about none, and no record that it declares applies at the
path. -/
structure SilentFor (operation : Operation) (bundle : String) (path : ScopePath)
    (hasSelection : Bool) : Prop where
  owner : operation.owner? = none ∨ operation.owner? = some bundle
  declares : ∀ spec ∈ operation.declares, spec.rank? path hasSelection = none

namespace SilentFor

variable {operation : Operation}

theorem owner_eq (silent : operation.SilentFor bundle path hasSelection) {uuid : String}
    (owner : operation.owner? = some uuid) : uuid = bundle := by
  rcases silent.owner with none | some
  · rw [none] at owner
    contradiction
  · exact Option.some.inj (owner.symm.trans some)

theorem rank?_of_adds (silent : operation.SilentFor bundle path hasSelection)
    {record : CompiledRecord} (added : record ∈ operation.adds) :
    record.rank? path hasSelection = none := by
  rw [adds_eq] at added
  obtain ⟨spec, declared, compiled⟩ := mem_compileAll.mp added
  have unranked := silent.declares spec declared
  rw [RecordSpec.rank?, compiled] at unranked
  exact unranked

end SilentFor

end Operation

theorem Silent.perform (silent : cascade.Silent bundle path hasSelection) {operation : Operation}
    (silentFor : operation.SilentFor bundle path hasSelection) :
    (operation.perform cascade).2.Silent bundle path hasSelection := by
  intro record member own
  rw [records_perform] at member
  rcases List.mem_append.mp member with kept | added
  · exact silent record (List.mem_filter.mp kept).1 own
  · obtain ⟨_, located, _⟩ := mem_numbered_iff.mp added
    exact silentFor.rank?_of_adds (List.mem_of_getElem? located)

/-- What is dropped and what is added has no rank, so the ranked records are the same. -/
theorem Silent.ranking_perform (silent : cascade.Silent bundle path hasSelection)
    {operation : Operation} (silentFor : operation.SilentFor bundle path hasSelection) :
    (operation.perform cascade).2.ranking path hasSelection =
      cascade.ranking path hasSelection := by
  have unranked {record : Record} (rank : record.rank? path hasSelection = none) :
      RankedRecord.ofRecord? path hasSelection record = none := by
    rw [RankedRecord.ofRecord?, rank, Option.map_none]
  have kept : (cascade.records.filter operation.keeps).filterMap
        (RankedRecord.ofRecord? path hasSelection) =
      cascade.records.filterMap (RankedRecord.ofRecord? path hasSelection) := by
    rw [List.filterMap_filter]
    refine List.filterMap_congr fun record member => ?_
    rw [operation.keeps_eq]
    cases drops : operation.drops record.bundle with
    | false => rfl
    | true =>
      have own := silentFor.owner_eq (Operation.owner?_of_drops drops)
      exact (unranked (silent record member own)).symm
  have added : (numbered cascade.nextOrder operation.adds).filterMap
      (RankedRecord.ofRecord? path hasSelection) = [] := by
    refine List.filterMap_eq_nil_iff.mpr fun record member => ?_
    obtain ⟨_, located, _⟩ := mem_numbered_iff.mp member
    exact unranked (silentFor.rank?_of_adds (List.mem_of_getElem? located))
  rw [ranking, rankRecords, records_perform, List.filterMap_append, kept, added, List.append_nil]
  rfl

theorem Silent.run (silent : cascade.Silent bundle path hasSelection) {operations : List Operation}
    (each : ∀ operation ∈ operations, operation.SilentFor bundle path hasSelection) :
    (cascade.run operations).2.Silent bundle path hasSelection ∧
      (cascade.run operations).2.ranking path hasSelection =
        cascade.ranking path hasSelection := by
  induction operations generalizing cascade with
  | nil => exact ⟨silent, rfl⟩
  | cons operation rest ih =>
    obtain ⟨first, later⟩ := List.forall_mem_cons.mp each
    obtain ⟨last, same⟩ := ih (silent.perform first) later
    exact ⟨last, same.trans (silent.ranking_perform first)⟩

end Cascade

namespace Registry

/-- Something that is done to a registry, or to its cascade directly. -/
inductive Action
  | onRegistry (event : Event)
  | onCascade (operation : Cascade.Operation)

namespace Action

def perform (registry : Registry) : Action → Registry
  | onRegistry event => event.perform registry
  | onCascade operation =>
    { registry with cascade := (operation.perform registry.cascade).2 }

/-- The bundle that an action is about. -/
def owner? : Action → Option String
  | onRegistry event => some event.uuid
  | onCascade operation => operation.owner?

/-- The specs that an action asks to register. -/
def declares : Action → List RecordSpec
  | onRegistry event => event.loaded.flatMap RecordSpec.ofBundle
  | onCascade operation => operation.declares

/-- What an action asks of the cascade. -/
def operations (registry : Registry) : Action → List Cascade.Operation
  | onRegistry event => event.operations registry
  | onCascade operation => [operation]

theorem cascade_perform (registry : Registry) (action : Action) :
    (action.perform registry).cascade =
      (registry.cascade.run (action.operations registry)).2 := by
  cases action with
  | onRegistry event => exact event.cascade_perform registry
  | onCascade operation => rfl

end Action

theorem Event.operations_owner (registry : Registry) (event : Event) :
    ∀ operation ∈ event.operations registry, operation.owner? = some event.uuid ∧
      operation.declares = event.loaded.flatMap RecordSpec.ofBundle := by
  intro operation member
  cases event with
  | load bundle =>
    rw [operations] at member
    have declared : RecordSpec.ofBundle bundle = [bundle].flatMap RecordSpec.ofBundle :=
      (List.flatMap_singleton _ _).symm
    split at member
    all_goals
      cases List.mem_singleton.mp member
      exact ⟨rfl, declared⟩
  | unload uuid =>
    rw [operations] at member
    split at member
    · cases List.mem_singleton.mp member
      exact ⟨rfl, rfl⟩
    · contradiction

theorem Action.silentFor {registry : Registry} {action : Action} {bundle : String}
    {path : ScopePath} {hasSelection : Bool}
    (owner : action.owner? = none ∨ action.owner? = some bundle)
    (unmatched : ∀ spec ∈ action.declares, spec.rank? path hasSelection = none) :
    ∀ operation ∈ action.operations registry,
      operation.SilentFor bundle path hasSelection := by
  intro operation member
  cases action with
  | onRegistry event =>
    obtain ⟨own, declares⟩ := event.operations_owner registry operation member
    exact ⟨own ▸ owner, declares ▸ unmatched⟩
  | onCascade own =>
    cases List.mem_singleton.mp member
    exact ⟨owner, unmatched⟩

/-- The registry after some actions. -/
def after (registry : Registry) (actions : List Action) : Registry :=
  actions.foldl Action.perform registry

theorem after_coherent {registry : Registry} (coherent : registry.cascade.Coherent)
    (actions : List Action) : (registry.after actions).cascade.Coherent := by
  induction actions generalizing registry with
  | nil => exact coherent
  | cons action later ih =>
    apply ih
    rw [action.cascade_perform]
    exact coherent.run _

theorem ranking_after {registry : Registry} {bundle : String} {path : ScopePath}
    {hasSelection : Bool} (silent : registry.cascade.Silent bundle path hasSelection)
    {actions : List Action}
    (owner : ∀ action ∈ actions, action.owner? = none ∨ action.owner? = some bundle)
    (unmatched : ∀ action ∈ actions, ∀ spec ∈ action.declares,
      spec.rank? path hasSelection = none) :
    (registry.after actions).cascade.ranking path hasSelection =
      registry.cascade.ranking path hasSelection := by
  induction actions generalizing registry with
  | nil => rfl
  | cons action later ih =>
    obtain ⟨firstOwner, laterOwner⟩ := List.forall_mem_cons.mp owner
    obtain ⟨firstUnmatched, laterUnmatched⟩ := List.forall_mem_cons.mp unmatched
    obtain ⟨stillSilent, same⟩ := silent.run (Action.silentFor firstOwner firstUnmatched)
    rw [← action.cascade_perform registry] at stillSilent same
    exact (ih stillSilent laterOwner laterUnmatched).trans same

/-- In every state of a registry and its cascade, as long as a bundle has no record that applies at
a path and gets none, loads, reloads and unloads of the bundle and all that the cascade can be asked
to do with it leave the path's settings, its commands and its ranking as they are. -/
theorem silent_bundle_unnoticed (options : CascadeOptions) (actions later : List Action)
    (bundle : String) (path : ScopePath) (hasSelection : Bool)
    (silent : ∀ record ∈ ((ofOptions options).after actions).cascade.records,
      record.bundle = bundle → record.rank? path hasSelection = none)
    (owner : ∀ action ∈ later, action.owner? = none ∨ action.owner? = some bundle)
    (unmatched : ∀ action ∈ later, ∀ spec ∈ action.declares,
      spec.rank? path hasSelection = none) :
    let reached := (ofOptions options).after actions
    let next := reached.after later
    (next.cascade.resolve path hasSelection).1.settings =
        (reached.cascade.resolve path hasSelection).1.settings ∧
      (next.cascade.commandsForScope path hasSelection).1 =
        (reached.cascade.commandsForScope path hasSelection).1 ∧
      next.cascade.ranking path hasSelection = reached.cascade.ranking path hasSelection := by
  intro reached next
  have coherent : reached.cascade.Coherent :=
    after_coherent (Cascade.coherent_ofOptions options) actions
  have coherentNext : next.cascade.Coherent := after_coherent coherent later
  have ranking : next.cascade.ranking path hasSelection =
      reached.cascade.ranking path hasSelection := ranking_after silent owner unmatched
  have resolved : (next.cascade.resolve path hasSelection).1.settings =
      (reached.cascade.resolve path hasSelection).1.settings := by
    rw [(coherentNext.resolve path hasSelection).1, (coherent.resolve path hasSelection).1,
      Cascade.resolveUncached_eq, Cascade.resolveUncached_eq, ranking]
  exact ⟨resolved, congrArg EffectiveSettings.commands resolved, ranking⟩

theorem bundle_for_text_unnoticed_in_source :
    let preference (scope value : String) : Preference :=
      { scope := some scope, settings := .ofList [.shellVariables (.singleton "NAME" value)] }
    let command : BundleItem :=
      { uuid := "command", name := "command", scope := some "source", selection := .required,
        kind := .snippet "" }
    let here : Bundle :=
      { uuid := "here", name := "here", path := .ofText "/here",
        preferences := [preference "source" "HERE"] }
    let there (scope : String) : Bundle :=
      { uuid := "there", name := "there", path := .ofText "/there",
        preferences := [preference scope "THERE"], items := [command] }
    let actions : List Action := [.onRegistry (.load (there "text")), .onRegistry (.load here)]
    let later : List Action :=
      [.onRegistry (.load (there "string")),
        .onCascade (.register ⟨"there", some "source (", ∅, .any⟩),
        .onCascade (.registerBundle (there "text")), .onRegistry (.unload "there")]
    let path : ScopePath := ⟨[⟨[⟨"source".toList, by decide⟩], by decide⟩], by decide⟩
    ((ofOptions {}).after actions).cascade.records.length = 3 ∧
      (((ofOptions {}).after actions).after later).cascade.records.length = 1 ∧
      ((((ofOptions {}).after actions).after later).cascade.resolve path false).1.settings =
        (((ofOptions {}).after actions).cascade.resolve path false).1.settings ∧
      (((ofOptions {}).after actions).after later).cascade.ranking path false =
        ((ofOptions {}).after actions).cascade.ranking path false := by
  intro preference command here there actions later path
  have silentRecords : (((ofOptions {}).after actions).cascade.records.all fun record =>
      record.bundle ≠ "there" || (record.rank? path false).isNone) = true := by
    unfold actions here there command preference path
    cbv
  have unmatchedSpecs : (later.all fun action => action.declares.all fun spec =>
      (spec.rank? path false).isNone) = true := by
    unfold later there command preference path
    cbv
  have lengths : ((ofOptions {}).after actions).cascade.records.length = 3 ∧
      (((ofOptions {}).after actions).after later).cascade.records.length = 1 := by
    unfold actions later here there command preference
    cbv
  have silent : ∀ record ∈ ((ofOptions {}).after actions).cascade.records,
      record.bundle = "there" → record.rank? path false = none := by
    intro record member own
    simpa [own] using List.all_eq_true.mp silentRecords record member
  have owner : ∀ action ∈ later, action.owner? = none ∨ action.owner? = some "there" := by
    intro action member
    simp only [later, List.mem_cons, List.not_mem_nil, or_false] at member
    rcases member with rfl | rfl | rfl | rfl
    all_goals exact .inr rfl
  have unmatched : ∀ action ∈ later, ∀ spec ∈ action.declares, spec.rank? path false = none := by
    intro action member spec declared
    have all := List.all_eq_true.mp unmatchedSpecs action member
    simpa using List.all_eq_true.mp all spec declared
  obtain ⟨resolved, _, ranking⟩ :=
    silent_bundle_unnoticed {} actions later "there" path false silent owner unmatched
  exact ⟨lengths.1, lengths.2, resolved, ranking⟩

end Registry

end ScopeCascade
