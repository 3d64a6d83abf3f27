import ScopeCascade.Proofs.Cascade.Operation

/-! Numbers of records stay unique in every run. Hence the records that apply at a path have exactly
one ranking, and no two of them have the same priority. -/
namespace ScopeCascade

theorem mem_numbered_iff {first : Nat} {records : List CompiledRecord} {record : Record} :
    record ∈ numbered first records ↔
      ∃ index, records[index]? = some record.toCompiledRecord ∧ record.order = first + index := by
  induction records generalizing first with
  | nil => simp
  | cons head rest ih =>
    rw [numbered_cons, List.mem_cons, ih]
    constructor
    · rintro (rfl | ⟨index, located, order⟩)
      · exact ⟨0, rfl, rfl⟩
      · exact ⟨index + 1, located, by omega⟩
    · rintro ⟨index, located, order⟩
      cases index with
      | zero =>
        obtain ⟨record, place⟩ := record
        cases located
        cases order
        exact .inl rfl
      | succ index => exact .inr ⟨index, located, by omega⟩

theorem mem_numbered_bounds {first : Nat} {records : List CompiledRecord} {record : Record}
    (member : record ∈ numbered first records) :
    first ≤ record.order ∧ record.order < first + records.length := by
  induction records generalizing first with
  | nil => contradiction
  | cons head rest ih =>
    rw [numbered_cons, List.mem_cons] at member
    rw [List.length_cons]
    rcases member with rfl | member
    · dsimp only
      omega
    · have bounds := ih member
      omega

theorem numbered_increasing (first : Nat) (records : List CompiledRecord) :
    (numbered first records).Pairwise fun older newer => older.order < newer.order := by
  induction records generalizing first with
  | nil => exact .nil
  | cons head rest ih =>
    refine List.pairwise_cons.mpr ⟨?_, ih (first + 1)⟩
    intro record member
    have bounds := mem_numbered_bounds member
    dsimp only
    omega

namespace Cascade

/-- The numbers of the records increase, and those from the next one on are free. -/
structure Ordered (cascade : Cascade) : Prop where
  increasing : cascade.records.Pairwise fun older newer => older.order < newer.order
  bounded : ∀ record ∈ cascade.records, record.order < cascade.nextOrder

theorem Ordered.of_bare {cascade : Cascade} (ordered : cascade.bare.Ordered) : cascade.Ordered :=
  ⟨ordered.increasing, ordered.bounded⟩

theorem Ordered.perform {cascade : Cascade} (ordered : cascade.Ordered) (operation : Operation) :
    (operation.perform cascade).2.Ordered := by
  apply Ordered.of_bare
  rw [perform_bare]
  constructor
  · refine List.pairwise_append.mpr
      ⟨ordered.increasing.filter _, numbered_increasing _ _, ?_⟩
    intro kept keptMember added addedMember
    have older := ordered.bounded kept (List.mem_filter.mp keptMember).1
    have newer := (mem_numbered_bounds addedMember).1
    omega
  · intro record member
    dsimp only
    rcases List.mem_append.mp member with kept | added
    · have older := ordered.bounded record (List.mem_filter.mp kept).1
      omega
    · exact (mem_numbered_bounds added).2

theorem Ordered.run {cascade : Cascade} (ordered : cascade.Ordered) (operations : List Operation) :
    (cascade.run operations).2.Ordered :=
  run_keeps Ordered (fun operation _ ordered => ordered.perform operation) ordered operations

theorem run_ordered (options : CascadeOptions) (operations : List Operation) :
    ((ofOptions options).run operations).2.Ordered := by
  have initial : (ofOptions options).Ordered := by
    constructor
    · exact .nil
    · intro record member
      contradiction
  exact initial.run operations

/-- The record is registered and applies at the path with this specificity. -/
def Applies (cascade : Cascade) (path : ScopePath) (hasSelection : Bool)
    (ranked : RankedRecord) : Prop :=
  ranked.record ∈ cascade.records ∧ ranked.record.selection.admits hasSelection ∧
    match ranked.record.selector with
    | none => ranked.specificity = .universal
    | some selector => ∃ result, selector.match? path = some result ∧
        ranked.specificity = .ofMatch result

end Cascade

theorem CompiledRecord.rank?_eq_some_iff (record : CompiledRecord) (path : ScopePath)
    (hasSelection : Bool) (specificity : Specificity) :
    record.rank? path hasSelection = some specificity ↔
      record.selection.admits hasSelection ∧
        match record.selector with
        | none => specificity = .universal
        | some selector => ∃ result, selector.match? path = some result ∧
            specificity = .ofMatch result := by
  unfold CompiledRecord.rank?
  split
  · rename_i admitted
    cases record.selector with
    | none => simp [admitted, eq_comm]
    | some selector =>
      dsimp only [Selector.rank?]
      rw [Option.map_eq_some_iff]
      simp only [admitted, true_and, eq_comm]
  · rename_i refused
    simp [refused]

namespace RankedRecord

instance : Std.TransCmp compare := inferInstanceAs (Std.TransCmp (compareLex _ _))

theorem isLE_total (a b : RankedRecord) : (a.compare b).isLE || (b.compare a).isLE := by
  by_cases below : (a.compare b).isLE
  · rw [below, Bool.true_or]
  · have above : b.compare a = .lt := Std.OrientedCmp.lt_of_not_isLE below
    rw [above, Ordering.isLE_lt, Bool.or_true]

theorem order_eq_of_compare {a b : RankedRecord} (same : a.compare b = .eq) :
    a.record.order = b.record.order :=
  Std.LawfulEqOrd.eq_of_compare (compareLex_eq_eq.mp same).2

/-- Lower priority: less specific than the other record, or equally specific and older. -/
def Below (lower higher : RankedRecord) : Prop :=
  Ord.compare lower.specificity higher.specificity = .lt ∨
    lower.specificity = higher.specificity ∧ lower.record.order < higher.record.order

theorem compare_eq_lt_iff (a b : RankedRecord) : a.compare b = .lt ↔ a.Below b := by
  unfold Below
  change (Ord.compare a.specificity b.specificity).then
    (Ord.compare a.record.order b.record.order) = .lt ↔ _
  rw [Ordering.then_eq_lt, Std.LawfulEqOrd.compare_eq_iff_eq, Nat.compare_eq_lt]

theorem Below.asymm {a b : RankedRecord} (below : a.Below b) : ¬ b.Below a := by
  rw [← compare_eq_lt_iff] at below ⊢
  exact Std.OrientedCmp.not_lt_of_lt below

theorem ofRecord?_eq_some_iff (path : ScopePath) (hasSelection : Bool) (record : Record)
    (ranked : RankedRecord) :
    ofRecord? path hasSelection record = some ranked ↔
      ranked.record = record ∧ record.rank? path hasSelection = some ranked.specificity := by
  cases ranked with
  | mk target specificity =>
    rw [ofRecord?, Option.map_eq_some_iff]
    constructor
    · rintro ⟨found, applies, same⟩
      cases same
      exact ⟨rfl, applies⟩
    · rintro ⟨rfl, applies⟩
      exact ⟨specificity, applies, rfl⟩

theorem ranking_unique {left right : List RankedRecord} (sortedLeft : left.Pairwise Below)
    (sortedRight : right.Pairwise Below) (same : left.Perm right) : left = right := by
  apply List.Perm.eq_of_pairwise _ sortedLeft sortedRight same
  intro a b _ _ below above
  exact absurd above below.asymm

theorem ranking_nodup {ranking : List RankedRecord} (sorted : ranking.Pairwise Below) :
    ranking.Nodup := by
  refine sorted.imp ?_
  rintro lower _ below rfl
  exact below.asymm below

theorem ranking_ext {left right : List RankedRecord} (sortedLeft : left.Pairwise Below)
    (sortedRight : right.Pairwise Below) (same : ∀ ranked, ranked ∈ left ↔ ranked ∈ right) :
    left = right :=
  ranking_unique sortedLeft sortedRight
    ((List.perm_ext_iff_of_nodup (ranking_nodup sortedLeft) (ranking_nodup sortedRight)).mpr same)

end RankedRecord

namespace Cascade

theorem mem_ranking (cascade : Cascade) (path : ScopePath) (hasSelection : Bool)
    (ranked : RankedRecord) :
    ranked ∈ cascade.ranking path hasSelection ↔ cascade.Applies path hasSelection ranked := by
  rw [ranking, rankRecords, List.mem_mergeSort, List.mem_filterMap, Applies,
    ← CompiledRecord.rank?_eq_some_iff]
  constructor
  · rintro ⟨record, member, found⟩
    obtain ⟨rfl, applies⟩ := (RankedRecord.ofRecord?_eq_some_iff _ _ _ _).mp found
    exact ⟨member, applies⟩
  · rintro ⟨member, applies⟩
    exact ⟨ranked.record, member, (RankedRecord.ofRecord?_eq_some_iff _ _ _ _).mpr ⟨rfl, applies⟩⟩

/-- No two records share a priority, since no two share a number. -/
theorem Ordered.ranking_ascending {cascade : Cascade} (ordered : cascade.Ordered)
    (path : ScopePath) (hasSelection : Bool) :
    (cascade.ranking path hasSelection).Pairwise RankedRecord.Below := by
  let applying := cascade.records.filterMap (RankedRecord.ofRecord? path hasSelection)
  have unsorted : applying.Pairwise fun a b => a.record.order ≠ b.record.order := by
    refine List.Pairwise.filterMap _ ?_ ordered.increasing
    intro older newer less a fromOlder b fromNewer
    rw [((RankedRecord.ofRecord?_eq_some_iff _ _ _ _).mp fromOlder).1,
      ((RankedRecord.ofRecord?_eq_some_iff _ _ _ _).mp fromNewer).1]
    exact Nat.ne_of_lt less
  have distinct : (cascade.ranking path hasSelection).Pairwise
      fun a b => a.record.order ≠ b.record.order :=
    (List.mergeSort_perm applying _).symm.pairwise unsorted Ne.symm
  have sorted : (cascade.ranking path hasSelection).Pairwise
      fun lower higher => (lower.compare higher).isLE :=
    List.pairwise_mergeSort (fun a b c => Std.TransCmp.isLE_trans)
      RankedRecord.isLE_total applying
  refine (sorted.and distinct).imp ?_
  rintro lower higher ⟨le, different⟩
  rw [← RankedRecord.compare_eq_lt_iff]
  cases compared : lower.compare higher with
  | lt => rfl
  | eq => exact absurd (RankedRecord.order_eq_of_compare compared) different
  | gt => simp [compared] at le

end Cascade

end ScopeCascade
