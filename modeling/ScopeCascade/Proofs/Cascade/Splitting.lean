import Mathlib
import ScopeCascade.Proofs.Cascade.History
import ScopeCascade.Proofs.Cascade.Winner
import ScopeCascade.Proofs.Selector.Joining

/-! A record whose selector is a list with commas does what one record for each part does. At a path
the single record is as specific as the most specific of the parts that apply, and whatever lies
between that one and the others wins over the others anyway. -/
namespace ScopeCascade

/-- The same keys with the same settings, where entries are united in whatever order. -/
structure EffectiveSettings.SameEntries (left right : EffectiveSettings) : Prop where
  keys : ∀ key, left.get? key = none ↔ right.get? key = none
  override : ∀ key, key.mergePolicy = .override → left.get? key = right.get? key
  shellVariables : ∀ name, (AdditiveKind.shellVariables.entries left.settings).get? name =
    (AdditiveKind.shellVariables.entries right.settings).get? name
  commands : ∀ uuid, (AdditiveKind.commands.entries left.settings).get? uuid =
    (AdditiveKind.commands.entries right.settings).get? uuid

namespace RankedRecord

theorem Below.specificity_isLE {a b : RankedRecord} (below : a.Below b) :
    (Ord.compare a.specificity b.specificity).isLE := by
  rcases below with less | ⟨same, _⟩
  · exact Ordering.isLE_of_eq_lt less
  · rw [same]
    exact Std.ReflCmp.isLE_rfl

/-- A newer record can only be below an older one by its specificity. -/
theorem Below.specificity_lt {a b : RankedRecord} (below : a.Below b)
    (older : b.record.order < a.record.order) :
    Ord.compare a.specificity b.specificity = .lt := by
  refine below.resolve_right ?_
  rintro ⟨_, newer⟩
  omega

end RankedRecord

/-- The greatest record of a ranking that has a value. -/
structure Wins {α : Type} (ranking : List RankedRecord) (value? : SettingsFragment → Option α)
    (winner : RankedRecord) : Prop where
  member : winner ∈ ranking
  has : (value? winner.record.settings).isSome
  above : ∀ other ∈ ranking, (value? other.record.settings).isSome →
    other = winner ∨ other.Below winner

/-- Records of the one ranking that are older than a number are in the other; each newer one has
these settings, and a newer one of the other ranking is at least as specific. -/
structure CoveredBy (first : Nat) (settings : SettingsFragment) (left right : List RankedRecord) :
    Prop where
  old : ∀ ranked ∈ left, ranked.record.order < first → ranked ∈ right
  own : ∀ ranked ∈ left, first ≤ ranked.record.order → ranked.record.settings = settings
  new : ∀ ranked ∈ left, first ≤ ranked.record.order → ∃ other ∈ right,
    first ≤ other.record.order ∧ (compare ranked.specificity other.specificity).isLE

namespace CoveredBy

variable {α : Type} {value? : SettingsFragment → Option α} {first : Nat}
  {settings : SettingsFragment} {left right : List RankedRecord}

theorem exists_settings (there : CoveredBy first settings left right)
    (back : CoveredBy first settings right left) {ranked : RankedRecord} (member : ranked ∈ right) :
    ∃ other ∈ left, other.record.settings = ranked.record.settings := by
  rcases Nat.lt_or_ge ranked.record.order first with older | newer
  · exact ⟨ranked, back.old ranked member older, rfl⟩
  · obtain ⟨other, among, newerOther, _⟩ := back.new ranked member newer
    exact ⟨other, among, (there.own other among newerOther).trans (back.own _ member newer).symm⟩

/-- Where a newer record wins in one ranking, an older one does not win in the other: it would be
below the newer one, and yet above one that is at least as specific. -/
theorem not_older (there : CoveredBy first settings left right)
    (back : CoveredBy first settings right left) {older newer : RankedRecord}
    (winsLeft : Wins left value? older) (winsRight : Wins right value? newer)
    (isOlder : older.record.order < first) (isNewer : first ≤ newer.record.order) : False := by
  obtain ⟨copy, among, isCopy, asSpecific⟩ := back.new newer winsRight.member isNewer
  have hasCopy : (value? copy.record.settings).isSome := by
    rw [there.own copy among isCopy, ← back.own newer winsRight.member isNewer]
    exact winsRight.has
  have copyBelow : copy.Below older := by
    refine (winsLeft.above copy among hasCopy).resolve_left ?_
    rintro rfl
    omega
  have newerBelow : compare newer.specificity older.specificity = .lt :=
    Std.TransCmp.lt_of_isLE_of_lt asSpecific (copyBelow.specificity_lt (by omega))
  have olderBelow : older.Below newer := by
    have inRight : older ∈ right := there.old older winsLeft.member isOlder
    refine (winsRight.above older inRight winsLeft.has).resolve_left ?_
    rintro rfl
    omega
  exact Std.OrientedCmp.not_isLE_of_lt newerBelow olderBelow.specificity_isLE

theorem winners_agree (there : CoveredBy first settings left right)
    (back : CoveredBy first settings right left) {a b : RankedRecord}
    (winsLeft : Wins left value? a) (winsRight : Wins right value? b) :
    value? a.record.settings = value? b.record.settings := by
  rcases Nat.lt_or_ge a.record.order first with olderA | newerA
  · rcases Nat.lt_or_ge b.record.order first with olderB | newerB
    · -- Both are in both rankings, so neither is below the other.
      have inRight := there.old a winsLeft.member olderA
      have inLeft := back.old b winsRight.member olderB
      rcases winsRight.above a inRight winsLeft.has with rfl | belowB
      · rfl
      · rcases winsLeft.above b inLeft winsRight.has with rfl | belowA
        · rfl
        · exact absurd belowB belowA.asymm
    · exact (there.not_older back winsLeft winsRight olderA newerB).elim
  · rcases Nat.lt_or_ge b.record.order first with olderB | newerB
    · exact (back.not_older there winsRight winsLeft olderB newerA).elim
    · rw [there.own a winsLeft.member newerA, back.own b winsRight.member newerB]

theorem won_eq (there : CoveredBy first settings left right)
    (back : CoveredBy first settings right left) {a b : Option α} (wonLeft : Won left value? a)
    (wonRight : Won right value? b) : a = b := by
  cases a with
  | none =>
    cases b with
    | none => rfl
    | some b =>
      obtain ⟨winner, member, has, _⟩ := wonRight
      obtain ⟨other, among, same⟩ := there.exists_settings back member
      rw [← same, wonLeft other among] at has
      contradiction
  | some a =>
    obtain ⟨winner, member, has, above⟩ := wonLeft
    cases b with
    | none =>
      obtain ⟨other, among, same⟩ := back.exists_settings there member
      rw [← same, wonRight other among] at has
      contradiction
    | some b =>
      obtain ⟨winnerB, memberB, hasB, aboveB⟩ := wonRight
      have agree := there.winners_agree back ⟨member, has ▸ rfl, above⟩
        ⟨memberB, hasB ▸ rfl, aboveB⟩
      exact has.symm.trans (agree.trans hasB)

theorem findSome?_eq (there : CoveredBy first settings left right)
    (back : CoveredBy first settings right left)
    (sortedLeft : left.Pairwise RankedRecord.Below)
    (sortedRight : right.Pairwise RankedRecord.Below) (value? : SettingsFragment → Option α) :
    (left.map (·.record.settings)).reverse.findSome? value? =
      (right.map (·.record.settings)).reverse.findSome? value? := by
  rw [← List.map_reverse, ← List.map_reverse, List.findSome?_map, List.findSome?_map]
  exact there.won_eq back (won_last sortedLeft value?) (won_last sortedRight value?)

theorem sameEntries (there : CoveredBy first settings left right)
    (back : CoveredBy first settings right left)
    (sortedLeft : left.Pairwise RankedRecord.Below)
    (sortedRight : right.Pairwise RankedRecord.Below) :
    (EffectiveSettings.ofFragments (left.map (·.record.settings))).SameEntries
      (.ofFragments (right.map (·.record.settings))) where
  keys key := by
    rw [EffectiveSettings.get?_ofFragments_eq_none, EffectiveSettings.get?_ofFragments_eq_none]
    have same := there.findSome?_eq back sortedLeft sortedRight (·.get? key)
    have absent := congrArg (· = none) same
    simpa [List.findSome?_eq_none_iff] using absent
  override key override := by
    rw [EffectiveSettings.get?_ofFragments_override override,
      EffectiveSettings.get?_ofFragments_override override]
    exact there.findSome?_eq back sortedLeft sortedRight (·.get? key)
  shellVariables name := by
    rw [AdditiveKind.get?_entries_ofFragments, AdditiveKind.get?_entries_ofFragments]
    exact there.findSome?_eq back sortedLeft sortedRight _
  commands uuid := by
    rw [AdditiveKind.get?_entries_ofFragments, AdditiveKind.get?_entries_ofFragments]
    exact there.findSome?_eq back sortedLeft sortedRight _

end CoveredBy

/-- Where a record of the one list applies, one of the other applies and is at least as specific. -/
def OutrankedBy (path : ScopePath) (hasSelection : Bool) (left right : List CompiledRecord) :
    Prop :=
  ∀ record ∈ left, ∀ specificity, record.rank? path hasSelection = some specificity →
    ∃ other ∈ right, ∃ greater, other.rank? path hasSelection = some greater ∧
      (compare specificity greater).isLE

namespace Cascade

theorem run_register_answers (cascade : Cascade) {specs : List RecordSpec}
    (each : ∀ spec ∈ specs, spec.compile.isOk) :
    (cascade.run (specs.map .register)).1 =
      (cascade.nextIds specs.length).map (.registered <| .ok ·) := by
  induction specs generalizing cascade with
  | nil => rfl
  | cons spec rest ih =>
    obtain ⟨first, later⟩ := List.forall_mem_cons.mp each
    rw [List.map_cons, run_cons, ih _ later, Operation.perform, register]
    cases compiled : spec.compile with
    | error error =>
      rw [compiled] at first
      contradiction
    | ok record => rfl

theorem mem_ranking_registered (cascade : Cascade) (specs : List RecordSpec) (path : ScopePath)
    (hasSelection : Bool) (ranked : RankedRecord) :
    ranked ∈ (cascade.run (specs.map .register)).2.ranking path hasSelection ↔
      (ranked.record ∈ cascade.records ∨
        ranked.record ∈ numbered cascade.nextOrder (compileAll specs)) ∧
      ranked.record.rank? path hasSelection = some ranked.specificity := by
  have records := congrArg Cascade.records (cascade.run_register_bare specs)
  dsimp only [bare] at records
  rw [mem_ranking, Applies, ← CompiledRecord.rank?_eq_some_iff, records, List.mem_append]

variable {cascade : Cascade} {specs others : List RecordSpec} {settings : SettingsFragment}
  {path : ScopePath} {hasSelection : Bool}

theorem Ordered.mem_compileAll_of_newer (ordered : cascade.Ordered) {ranked : RankedRecord}
    (member : ranked ∈ (cascade.run (specs.map .register)).2.ranking path hasSelection)
    (newer : cascade.nextOrder ≤ ranked.record.order) :
    ranked.record.toCompiledRecord ∈ compileAll specs ∧
      ranked.record.rank? path hasSelection = some ranked.specificity := by
  obtain ⟨standing | added, rank⟩ := (mem_ranking_registered _ _ _ _ _).mp member
  · have older := ordered.bounded _ standing
    omega
  · obtain ⟨index, located, _⟩ := mem_numbered_iff.mp added
    exact ⟨List.mem_of_getElem? located, rank⟩

theorem Ordered.coveredBy (ordered : cascade.Ordered)
    (same : ∀ record ∈ compileAll specs, record.settings = settings)
    (outranked : OutrankedBy path hasSelection (compileAll specs) (compileAll others)) :
    CoveredBy cascade.nextOrder settings
      ((cascade.run (specs.map .register)).2.ranking path hasSelection)
      ((cascade.run (others.map .register)).2.ranking path hasSelection) where
  old := by
    intro ranked member older
    obtain ⟨standing | added, rank⟩ := (mem_ranking_registered _ _ _ _ _).mp member
    · exact (mem_ranking_registered _ _ _ _ _).mpr ⟨.inl standing, rank⟩
    · have newer := (mem_numbered_bounds added).1
      omega
  own ranked member newer := same _ (ordered.mem_compileAll_of_newer member newer).1
  new := by
    intro ranked member newer
    obtain ⟨compiled, rank⟩ := ordered.mem_compileAll_of_newer member newer
    obtain ⟨other, among, greater, rankOther, above⟩ := outranked _ compiled _ rank
    -- The number of the other record follows from its place among those added.
    obtain ⟨index, located⟩ := List.mem_iff_getElem?.mp among
    let added : Record := { other with order := cascade.nextOrder + index }
    refine ⟨⟨added, greater⟩, ?_, Nat.le_add_right _ _, above⟩
    refine (mem_ranking_registered _ _ _ _ _).mpr ⟨.inr ?_, rankOther⟩
    exact mem_numbered_iff.mpr ⟨index, located, rfl⟩

/-- Records of one fragment come to the same as others of it, wherever each list outranks the
other. -/
theorem Ordered.sameEntries (ordered : cascade.Ordered) (coherent : cascade.Coherent)
    (same : ∀ record ∈ compileAll specs, record.settings = settings)
    (sameOthers : ∀ record ∈ compileAll others, record.settings = settings)
    (there : OutrankedBy path hasSelection (compileAll specs) (compileAll others))
    (back : OutrankedBy path hasSelection (compileAll others) (compileAll specs)) :
    ((cascade.run (specs.map .register)).2.resolve path hasSelection).1.settings.SameEntries
      ((cascade.run (others.map .register)).2.resolve path hasSelection).1.settings := by
  have ascending (specs : List RecordSpec) :=
    (ordered.run (specs.map .register)).ranking_ascending path hasSelection
  have resolved (specs : List RecordSpec) :=
    ((coherent.run (specs.map .register)).resolve path hasSelection).1
  rw [resolved specs, resolved others]
  exact (ordered.coveredBy same there).sameEntries (ordered.coveredBy sameOthers back)
    (ascending specs) (ascending others)

end Cascade

theorem RecordSpec.compile_some_eq_ok_iff (bundle text : String) (settings : SettingsFragment)
    (selection : SelectionRequirement) (record : CompiledRecord) :
    (⟨bundle, some text, settings, selection⟩ : RecordSpec).compile = .ok record ↔
      ∃ selector, Selector.parse text = .ok selector ∧
        record = ⟨bundle, some selector, settings, selection⟩ := by
  rw [compile_eq_ok_iff]
  constructor
  · rintro ⟨rfl, rfl, rfl, selector, parsed, own⟩
    refine ⟨selector, parsed, ?_⟩
    cases record
    cases own
    rfl
  · rintro ⟨selector, parsed, rfl⟩
    exact ⟨rfl, rfl, rfl, selector, parsed, rfl⟩

theorem mem_compileAll_texts {bundle : String} {texts : List String} {settings : SettingsFragment}
    {selection : SelectionRequirement} {record : CompiledRecord} :
    record ∈ compileAll (texts.map fun text => ⟨bundle, some text, settings, selection⟩) ↔
      ∃ text ∈ texts, ∃ selector, Selector.parse text = .ok selector ∧
        record = ⟨bundle, some selector, settings, selection⟩ := by
  rw [mem_compileAll]
  constructor
  · rintro ⟨spec, member, compiled⟩
    obtain ⟨text, among, rfl⟩ := List.mem_map.mp member
    exact ⟨text, among, (RecordSpec.compile_some_eq_ok_iff ..).mp compiled⟩
  · rintro ⟨text, among, read⟩
    exact ⟨_, List.mem_map_of_mem among, (RecordSpec.compile_some_eq_ok_iff ..).mpr read⟩

theorem CompiledRecord.rank?_some_eq_some_iff (bundle : String) (selector : Selector)
    (settings : SettingsFragment) (selection : SelectionRequirement) (path : ScopePath)
    (hasSelection : Bool) (specificity : Specificity) :
    (⟨bundle, some selector, settings, selection⟩ : CompiledRecord).rank? path hasSelection =
        some specificity ↔
      selection.admits hasSelection ∧ selector.rank? path = some specificity := by
  unfold rank?
  cases selection.admits hasSelection <;> simp

/-- Selectors that reach no more than others are outranked by them. -/
theorem outrankedBy_of_reaches {bundle : String} {settings : SettingsFragment}
    {selection : SelectionRequirement} {path : ScopePath} {hasSelection : Bool}
    {texts others : List String}
    (reaches : ∀ text ∈ texts, ∀ selector, Selector.parse text = .ok selector → ∀ specificity,
      selector.Reaches path specificity → ∃ other ∈ others, ∃ reacher,
        Selector.parse other = .ok reacher ∧ reacher.Reaches path specificity) :
    OutrankedBy path hasSelection
      (compileAll (texts.map fun text => ⟨bundle, some text, settings, selection⟩))
      (compileAll (others.map fun text => ⟨bundle, some text, settings, selection⟩)) := by
  intro record member specificity ranked
  obtain ⟨text, among, selector, parsed, rfl⟩ := mem_compileAll_texts.mp member
  obtain ⟨admitted, own⟩ := (CompiledRecord.rank?_some_eq_some_iff ..).mp ranked
  obtain ⟨reached, _⟩ := (selector.rank?_eq_some_iff path _).mp own
  obtain ⟨other, amongOthers, reacher, read, reachedToo⟩ :=
    reaches text among selector parsed specificity reached
  obtain ⟨greater, rankedOther, above⟩ := reachedToo.exists_rank?
  exact ⟨_, mem_compileAll_texts.mpr ⟨other, amongOthers, reacher, read, rfl⟩, greater,
    (CompiledRecord.rank?_some_eq_some_iff ..).mpr ⟨admitted, rankedOther⟩, above⟩

namespace Cascade

/-- One record for several selectors with commas between them comes to the same as a record for
each of them. -/
theorem commas_separate_records (options : CascadeOptions) (operations : List Operation)
    (first : String) (rest : List String)
    (accepted : ∀ text ∈ first :: rest, ∃ selector, Selector.parse text = .ok selector)
    (bundle : String) (settings : SettingsFragment) (selection : SelectionRequirement) :
    let reached := ((ofOptions options).run operations).2
    let spec (text : String) : RecordSpec := ⟨bundle, some text, settings, selection⟩
    let joined := reached.register (spec (", ".intercalate (first :: rest)))
    let split := reached.run ((first :: rest).map fun text => .register (spec text))
    joined.1 = .ok reached.nextOrder ∧
      split.1 = (reached.nextIds (first :: rest).length).map (.registered <| .ok ·) ∧
      ∀ path hasSelection, (joined.2.resolve path hasSelection).1.settings.SameEntries
        (split.2.resolve path hasSelection).1.settings := by
  intro reached spec joined split
  obtain ⟨whole, parsed, reaches⟩ := Selector.parse_joined accepted
  have ordered : reached.Ordered := run_ordered options operations
  have coherent : reached.Coherent := run_coherent options operations
  have listed : ((first :: rest).map spec).map Operation.register =
      (first :: rest).map fun text => .register (spec text) := List.map_map
  have registers (text : String) (selector : Selector) (read : Selector.parse text = .ok selector) :
      (spec text).compile = .ok ⟨bundle, some selector, settings, selection⟩ :=
    (RecordSpec.compile_some_eq_ok_iff ..).mpr ⟨selector, read, rfl⟩
  have answers : split.1 =
      (reached.nextIds (first :: rest).length).map (.registered <| .ok ·) := by
    have each : ∀ own ∈ (first :: rest).map spec, own.compile.isOk := by
      intro own member
      obtain ⟨text, among, rfl⟩ := List.mem_map.mp member
      obtain ⟨selector, read⟩ := accepted text among
      rw [registers text selector read]
      rfl
    have answered := reached.run_register_answers each
    rwa [listed, List.length_map] at answered
  refine ⟨?_, answers, fun path hasSelection => ?_⟩
  · dsimp only [joined]
    rw [register, registers _ whole parsed]
  · have same (texts : List String) : ∀ record ∈ compileAll (texts.map spec),
        record.settings = settings := by
      intro record member
      obtain ⟨_, _, _, _, rfl⟩ := mem_compileAll_texts.mp member
      rfl
    have there : OutrankedBy path hasSelection
        (compileAll ([", ".intercalate (first :: rest)].map spec))
        (compileAll ((first :: rest).map spec)) := by
      refine outrankedBy_of_reaches fun text among selector read specificity reached => ?_
      rw [List.mem_singleton.mp among, parsed] at read
      cases read
      exact (reaches path specificity).mp reached
    have back : OutrankedBy path hasSelection (compileAll ((first :: rest).map spec))
        (compileAll ([", ".intercalate (first :: rest)].map spec)) := by
      refine outrankedBy_of_reaches fun text among selector read specificity reached => ?_
      exact ⟨_, List.mem_singleton_self _, whole, parsed,
        (reaches path specificity).mpr ⟨text, among, selector, read, reached⟩⟩
    have entries := ordered.sameEntries coherent (same _) (same _) there back
    rwa [listed] at entries

theorem commas_separate_records_beside_deeper_record :
    let fragment (value : String) : SettingsFragment :=
      .ofList [.shellVariables (.singleton "NAME" value)]
    let spec (selector value : String) : RecordSpec :=
      ⟨"bundle", some selector, fragment value, .any⟩
    let reached := ((ofOptions {}).run [.register (spec "source string" "DEEPER")]).2
    let path : ScopePath := ⟨[⟨[⟨"source".toList, by decide⟩], by decide⟩,
      ⟨[⟨"string".toList, by decide⟩], by decide⟩], by decide⟩
    let joined := reached.register (spec "source, string, text - string" "VALUE")
    let split := reached.run [.register (spec "source" "VALUE"), .register (spec "string" "VALUE"),
      .register (spec "text - string" "VALUE")]
    (∀ text ∈ ["source", "string", "text - string"],
        ∃ selector, Selector.parse text = .ok selector) ∧
      joined.1 = .ok 1 ∧
      (joined.2.resolve path false).1.settings.SameEntries
        (split.2.resolve path false).1.settings := by
  intro fragment spec reached path joined split
  let source : Scope := ⟨[⟨"source".toList, by decide⟩], by decide⟩
  let string : Scope := ⟨[⟨"string".toList, by decide⟩], by decide⟩
  let text : Scope := ⟨[⟨"text".toList, by decide⟩], by decide⟩
  have accepted : ∀ text ∈ ["source", "string", "text - string"],
      ∃ selector, Selector.parse text = .ok selector := by
    simp only [List.forall_mem_cons, List.not_mem_nil, false_implies, implies_true, and_true]
    refine ⟨⟨⟨"source".toList, .atom source⟩, by cbv⟩, ⟨⟨"string".toList, .atom string⟩, by cbv⟩,
      ?_⟩
    exact ⟨⟨"text - string".toList, .exclusion (.atom text) (.atom string)⟩, by cbv⟩
  obtain ⟨registered, _, entries⟩ := commas_separate_records {}
    [.register (spec "source string" "DEEPER")] "source" ["string", "text - string"] accepted
    "bundle" (fragment "VALUE") .any
  exact ⟨accepted, registered, entries path false⟩

end Cascade

end ScopeCascade
