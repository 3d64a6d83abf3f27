/-! Looking a key up in a list of pairs: the first pair with the key counts. -/
namespace ScopeCascade

variable {κ α : Type} [DecidableEq κ]

theorem lookup_cons_ite (sought key : κ) (value : α) (entries : List (κ × α)) :
    ((key, value) :: entries).lookup sought =
      if sought = key then some value else entries.lookup sought := by
  rw [List.lookup_cons]
  by_cases h : sought = key
  · simp [h]
  · simp [h, beq_eq_false_iff_ne.mpr h]

theorem lookup_eq_none_iff_notMem {key : κ} {entries : List (κ × α)} :
    entries.lookup key = none ↔ key ∉ entries.map Prod.fst := by
  rw [List.lookup_eq_none_iff]
  constructor
  · intro different member
    obtain ⟨entry, held, rfl⟩ := List.mem_map.mp member
    simpa using different entry held
  · intro absent entry member
    rw [bne_iff_ne]
    rintro rfl
    exact absent (List.mem_map_of_mem member)

theorem mem_iff_lookup {key : κ} {value : α} {entries : List (κ × α)}
    (distinct : (entries.map Prod.fst).Nodup) :
    (key, value) ∈ entries ↔ entries.lookup key = some value := by
  induction entries with
  | nil => simp
  | cons entry rest ih =>
    obtain ⟨first, held⟩ := entry
    obtain ⟨new, restDistinct⟩ := List.nodup_cons.mp distinct
    rw [lookup_cons_ite, List.mem_cons, Prod.mk.injEq, ih restDistinct]
    by_cases same : key = first
    · rw [if_pos same, same, lookup_eq_none_iff_notMem.mpr new]
      simp [eq_comm]
    · simp [same]

theorem lookup_reverse {key : κ} {entries : List (κ × α)}
    (distinct : (entries.map Prod.fst).Nodup) :
    entries.reverse.lookup key = entries.lookup key := by
  apply Option.ext
  intro value
  have reversed : (entries.reverse.map Prod.fst).Nodup := by
    rw [List.map_reverse]
    exact List.pairwise_reverse.mpr (distinct.imp Ne.symm)
  rw [← mem_iff_lookup reversed, ← mem_iff_lookup distinct, List.mem_reverse]

/-- At most one pair has a given key. -/
theorem filter_key_eq_lookup {entries : List (κ × α)}
    (distinct : (entries.map Prod.fst).Nodup) (key : κ) :
    entries.filter (fun entry => entry.1 = key) =
      ((entries.lookup key).map fun value => (key, value)).toList := by
  induction entries with
  | nil => rfl
  | cons entry rest ih =>
    obtain ⟨first, held⟩ := entry
    obtain ⟨new, restDistinct⟩ := List.nodup_cons.mp distinct
    rw [lookup_cons_ite, List.filter_cons, ih restDistinct]
    by_cases same : key = first
    · subst same
      simp [lookup_eq_none_iff_notMem.mpr new]
    · simp [same, Ne.symm same]

end ScopeCascade
