import ScopeCascade.Proofs.Cascade.Ranking
import ScopeCascade.Registry

/-! The registry and its cascade stay in step: after any loads and unloads the records are those of
the loaded bundles, in the order of their latest loads. -/
namespace ScopeCascade

/-- The selector, if there is one, that a text denotes; nothing if the text does not parse. -/
def selector? : Option String → Option (Option Selector)
  | none => some none
  | some text => (Selector.parse text).toOption.map some

/-- The records of a bundle whose selectors parse: those of its preferences, then those of its
items. -/
def Bundle.compilable (bundle : Bundle) : List CompiledRecord :=
  (bundle.preferences.filterMap fun preference => (selector? preference.scope).map fun selector =>
    { bundle := bundle.uuid, selector, settings := preference.settings, selection := .any }) ++
  bundle.items.filterMap fun item => (selector? item.scope).map fun selector =>
    { bundle := bundle.uuid, selector, selection := item.selection
      settings := .ofList [.commands (.singleton item.uuid (.offer item))] }

theorem RecordSpec.toOption_compile (spec : RecordSpec) :
    spec.compile.toOption = (selector? spec.selector).map fun selector =>
      ⟨spec.bundle, selector, spec.settings, spec.selection⟩ := by
  unfold compile selector?
  cases spec.selector with
  | none => rfl
  | some text =>
    dsimp only
    cases Selector.parse text <;> rfl

theorem compileBundle_fst (bundle : Bundle) :
    (Cascade.compileBundle bundle).1 = bundle.compilable := by
  rw [Cascade.compileBundle_records, compileAll, RecordSpec.ofBundle, List.filterMap_append,
    List.filterMap_map, List.filterMap_map]
  simp only [Function.comp_def, RecordSpec.toOption_compile]
  rfl

theorem Bundle.bundle_of_compilable {bundle : Bundle} {record : CompiledRecord}
    (member : record ∈ bundle.compilable) : record.bundle = bundle.uuid := by
  rw [← compileBundle_fst] at member
  exact Cascade.bundle_of_compileBundle member

/-- Without the records of one bundle, the records are those of the other bundles. -/
theorem filter_compilable (bundles : List Bundle) (uuid : String) :
    (bundles.flatMap Bundle.compilable).filter (·.bundle ≠ uuid) =
      (bundles.filter (·.uuid ≠ uuid)).flatMap Bundle.compilable := by
  induction bundles with
  | nil => rfl
  | cons bundle rest ih =>
    rw [List.flatMap_cons, List.filter_append, ih, List.filter_cons]
    by_cases same : bundle.uuid = uuid
    · have gone : bundle.compilable.filter (·.bundle ≠ uuid) = [] := by
        rw [List.filter_eq_nil_iff]
        intro record member
        simp [Bundle.bundle_of_compilable member, same]
      rw [gone, List.nil_append, if_neg (by simpa using same)]
    · have kept : bundle.compilable.filter (·.bundle ≠ uuid) = bundle.compilable := by
        rw [List.filter_eq_self]
        intro record member
        simp [Bundle.bundle_of_compilable member, same]
      rw [kept, if_pos (by simpa using same), List.flatMap_cons]

namespace Registry

inductive Event
  | load (bundle : Bundle)
  | unload (uuid : String)

namespace Event

def uuid : Event → String
  | load bundle => bundle.uuid
  | unload uuid => uuid

def perform (registry : Registry) : Event → Registry
  | load bundle => (registry.load bundle).2
  | unload uuid => (registry.unload uuid).2

/-- The bundles that an event adds. -/
def loaded : Event → List Bundle
  | load bundle => [bundle]
  | unload _ => []

end Event

def run (registry : Registry) (events : List Event) : Registry :=
  events.foldl Event.perform registry

/-- The bundles of those loads that no later event of the same identifier follows. -/
def standing : List Event → List Bundle
  | [] => []
  | event :: later =>
    event.loaded.filter (fun bundle => later.all fun next => next.uuid ≠ bundle.uuid) ++
      standing later

theorem load_of_present {registry : Registry} {bundle held : Bundle}
    (present : registry.get? bundle.uuid = some held) :
    (registry.load bundle).2 = ⟨(registry.cascade.replaceBundle bundle).2,
      (registry.bundles.erase bundle.uuid).insert bundle.uuid bundle⟩ := by
  rw [load, present]

theorem load_of_absent {registry : Registry} {bundle : Bundle}
    (absent : registry.get? bundle.uuid = none) :
    (registry.load bundle).2 = ⟨(registry.cascade.registerBundle bundle).2,
      (registry.bundles.erase bundle.uuid).insert bundle.uuid bundle⟩ := by
  rw [load, absent]

namespace Event

/-- What an event asks of the cascade. -/
def operations (registry : Registry) : Event → List Cascade.Operation
  | load bundle =>
    match registry.get? bundle.uuid with
    | some _ => [.replaceBundle bundle]
    | none => [.registerBundle bundle]
  | unload uuid =>
    match registry.get? uuid with
    | some _ => [.unregisterBundle uuid]
    | none => []

theorem cascade_perform (registry : Registry) (event : Event) :
    (event.perform registry).cascade =
      (registry.cascade.run (event.operations registry)).2 := by
  cases event with
  | load bundle =>
    rw [operations, perform]
    cases held : registry.get? bundle.uuid with
    | some replaced => exact congrArg Registry.cascade (load_of_present held)
    | none => exact congrArg Registry.cascade (load_of_absent held)
  | unload uuid =>
    rw [operations, perform, Registry.unload]
    cases registry.get? uuid <;> rfl

end Event

/-- The registry holds these bundles, and its cascade their records. -/
structure InStep (registry : Registry) (bundles : List Bundle) : Prop where
  entries : registry.bundles.entries = bundles.map fun bundle => (bundle.uuid, bundle)
  records : registry.cascade.records.map Record.toCompiledRecord =
    bundles.flatMap Bundle.compilable
  ordered : registry.cascade.Ordered

namespace InStep

variable {registry : Registry} {bundles : List Bundle}

theorem fresh (options : CascadeOptions) : InStep (ofOptions options) [] where
  entries := rfl
  records := rfl
  ordered := Cascade.run_ordered options []

theorem toList (inStep : InStep registry bundles) : registry.toList = bundles := by
  rw [Registry.toList, InsertionMap.values, inStep.entries, List.map_map]
  exact List.map_id bundles

theorem uuids_distinct (inStep : InStep registry bundles) : (bundles.map (·.uuid)).Nodup := by
  have distinct := registry.bundles.distinct
  rw [inStep.entries, List.map_map] at distinct
  exact distinct

theorem erase (inStep : InStep registry bundles) (uuid : String) :
    (registry.bundles.erase uuid).entries =
      (bundles.filter (·.uuid ≠ uuid)).map fun bundle => (bundle.uuid, bundle) := by
  change registry.bundles.entries.filter (·.1 ≠ uuid) = _
  rw [inStep.entries, List.filter_map]
  rfl

theorem filter_of_absent (inStep : InStep registry bundles) {uuid : String}
    (absent : registry.get? uuid = none) : bundles.filter (·.uuid ≠ uuid) = bundles := by
  rw [List.filter_eq_self]
  intro bundle member
  have entry : (bundle.uuid, bundle) ∈ registry.bundles.entries := by
    rw [inStep.entries]
    exact List.mem_map_of_mem member
  have found := (mem_iff_lookup registry.bundles.distinct).mp entry
  rw [decide_eq_true_iff]
  intro same
  rw [same] at found
  exact Option.some_ne_none bundle (found.symm.trans absent)

theorem dropped (inStep : InStep registry bundles) (uuid : String) :
    (registry.cascade.records.filter (·.bundle ≠ uuid)).map Record.toCompiledRecord =
      (bundles.filter (·.uuid ≠ uuid)).flatMap Bundle.compilable := by
  rw [← filter_compilable, ← inStep.records, List.filter_map]
  rfl

/-- A loaded bundle comes behind all others, also when it was loaded before. -/
theorem insert (inStep : InStep registry bundles) (bundle : Bundle) :
    ((registry.bundles.erase bundle.uuid).insert bundle.uuid bundle).entries =
      (bundles.filter (·.uuid ≠ bundle.uuid) ++ [bundle]).map
        fun bundle => (bundle.uuid, bundle) := by
  have new : bundle.uuid ∉ (registry.bundles.erase bundle.uuid).entries.map Prod.fst := by
    rw [inStep.erase, List.map_map]
    intro member
    obtain ⟨other, kept, same⟩ := List.mem_map.mp member
    exact of_decide_eq_true (List.mem_filter.mp kept).2 same
  refine (InsertionMap.put_of_notMem new).trans ?_
  rw [inStep.erase, List.map_append]
  rfl

/-- An operation on the cascade that keeps the records of some bundles and adds those of others. -/
theorem after (inStep : InStep registry bundles) (operation : Cascade.Operation)
    {held : InsertionMap String Bundle} {remaining added : List Bundle}
    (entries : held.entries = (remaining ++ added).map fun bundle => (bundle.uuid, bundle))
    (kept : (registry.cascade.records.filter operation.keeps).map Record.toCompiledRecord =
      remaining.flatMap Bundle.compilable)
    (adds : operation.adds = added.flatMap Bundle.compilable) :
    InStep ⟨(operation.perform registry.cascade).2, held⟩ (remaining ++ added) where
  entries := entries
  records := by
    rw [Cascade.map_records_perform, kept, adds, List.flatMap_append]
  ordered := inStep.ordered.perform operation

theorem load (inStep : InStep registry bundles) (bundle : Bundle) :
    InStep (registry.load bundle).2 (bundles.filter (·.uuid ≠ bundle.uuid) ++ [bundle]) := by
  have adds : (Cascade.compileBundle bundle).1 = [bundle].flatMap Bundle.compilable := by
    rw [List.flatMap_singleton, compileBundle_fst]
  have entries := inStep.insert bundle
  cases held : registry.get? bundle.uuid with
  | some replaced =>
    rw [load_of_present held]
    exact inStep.after (.replaceBundle bundle) entries (inStep.dropped bundle.uuid) adds
  | none =>
    -- Nothing carries the identifier, so keeping all records is the same as dropping its own.
    have kept : (registry.cascade.records.filter fun _ => true).map Record.toCompiledRecord =
        (bundles.filter (·.uuid ≠ bundle.uuid)).flatMap Bundle.compilable := by
      rw [inStep.filter_of_absent held, ← inStep.records]
      congr 1
      exact List.filter_eq_self.mpr fun _ _ => rfl
    rw [load_of_absent held]
    exact inStep.after (.registerBundle bundle) entries kept adds

theorem unload (inStep : InStep registry bundles) (uuid : String) :
    InStep (registry.unload uuid).2 (bundles.filter (·.uuid ≠ uuid)) := by
  unfold Registry.unload
  split
  · rw [← List.append_nil (bundles.filter _)]
    refine inStep.after (.unregisterBundle uuid) ?_ (inStep.dropped uuid) rfl
    rw [List.append_nil]
    exact inStep.erase uuid
  · rename_i absent
    rw [inStep.filter_of_absent absent]
    exact inStep

theorem perform (inStep : InStep registry bundles) (event : Event) :
    InStep (event.perform registry) (bundles.filter (·.uuid ≠ event.uuid) ++ event.loaded) := by
  cases event with
  | load bundle => exact inStep.load bundle
  | unload uuid =>
    rw [Event.loaded, List.append_nil]
    exact inStep.unload uuid

/-- Of the bundles before a run those stay that none of its events names. -/
theorem run (inStep : InStep registry bundles) (events : List Event) :
    InStep (registry.run events)
      (bundles.filter (fun bundle => events.all fun event => event.uuid ≠ bundle.uuid) ++
        standing events) := by
  induction events generalizing registry bundles with
  | nil =>
    have all : bundles.filter (fun _ => true) = bundles := List.filter_eq_self.mpr fun _ _ => rfl
    change InStep registry (bundles.filter (fun _ => true) ++ [])
    rw [all, List.append_nil]
    exact inStep
  | cons event later ih =>
    have next := ih (inStep.perform event)
    rw [List.filter_append, List.filter_filter, List.append_assoc] at next
    change InStep ((event.perform registry).run later) _
    simpa [standing, eq_comm, Bool.and_comm] using next

end InStep

/-- After any loads and unloads the registry lists the bundles of the latest loads, each identifier
once, and the records of its cascade are theirs. -/
theorem run_in_step (options : CascadeOptions) (events : List Event) :
    let reached := (ofOptions options).run events
    reached.toList = standing events ∧
      (reached.toList.map (·.uuid)).Nodup ∧
      reached.cascade.records.map Record.toCompiledRecord =
        reached.toList.flatMap Bundle.compilable ∧
      reached.cascade.records.Pairwise (fun older newer => older.order < newer.order) ∧
      ∀ bundle : Bundle, ∀ record ∈ bundle.compilable, record.bundle = bundle.uuid := by
  intro reached
  have inStep : InStep reached (standing events) := (InStep.fresh options).run events
  rw [inStep.toList]
  exact ⟨rfl, inStep.uuids_distinct, inStep.records, inStep.ordered.increasing,
    fun _ _ => Bundle.bundle_of_compilable⟩

end Registry

end ScopeCascade
