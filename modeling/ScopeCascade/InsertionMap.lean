import ScopeCascade.Lookup

/-! Finite maps whose entries stand in the order in which their keys were first added. -/
namespace ScopeCascade

/-- A finite map, as the list of its entries, oldest key first. -/
structure InsertionMap (κ α : Type) where
  entries : List (κ × α)
  distinct : (entries.map Prod.fst).Nodup

theorem eraseDups_of_nodup {κ : Type} [DecidableEq κ] {keys : List κ} (distinct : keys.Nodup) :
    keys.eraseDups = keys := by
  induction keys with
  | nil => rfl
  | cons key rest ih =>
    obtain ⟨new, restDistinct⟩ := List.nodup_cons.mp distinct
    have kept : rest.filter (fun other => !other == key) = rest := by
      rw [List.filter_eq_self]
      rintro other member
      simpa using fun same : other = key => new (same ▸ member)
    rw [List.eraseDups_cons, kept, ih restDistinct]

theorem eraseDups_append_cons_of_mem {κ : Type} [DecidableEq κ] {key : κ} {earlier later : List κ}
    (present : key ∈ earlier) :
    (earlier ++ key :: later).eraseDups = (earlier ++ later).eraseDups := by
  have dropped : (key :: later).removeAll earlier = later.removeAll earlier := by
    simp [List.removeAll, present]
  rw [List.eraseDups_append, List.eraseDups_append, dropped]

theorem eraseDups_filter {κ : Type} [DecidableEq κ] (chosen : κ → Bool) (keys : List κ) :
    (keys.filter chosen).eraseDups = keys.eraseDups.filter chosen := by
  cases keys with
  | nil => rfl
  | cons key rest =>
    rw [List.eraseDups_cons, List.filter_cons, List.filter_cons,
      ← eraseDups_filter chosen (rest.filter fun other => !other == key), List.filter_filter]
    have swapped : rest.filter (fun other => !other == key && chosen other) =
        rest.filter fun other => chosen other && !other == key := by
      simp only [Bool.and_comm]
    cases kept : chosen key with
    | true => rw [if_pos rfl, if_pos rfl, List.eraseDups_cons, List.filter_filter, swapped]
    | false =>
      -- The key goes anyway, so all its repetitions may go first.
      have gone : rest.filter chosen = rest.filter fun other => chosen other && !other == key := by
        apply List.filter_congr
        intro other _
        by_cases same : other = key
        · simp [same, kept]
        · simp [same]
      rw [if_neg Bool.false_ne_true, if_neg Bool.false_ne_true, gone]
termination_by keys.length
decreasing_by exact Nat.lt_succ_of_le (List.length_filter_le _ rest)

namespace InsertionMap

variable {κ α : Type}

instance : EmptyCollection (InsertionMap κ α) := ⟨⟨[], .nil⟩⟩

instance : Inhabited (InsertionMap κ α) := ⟨∅⟩

instance [DecidableEq κ] [DecidableEq α] : DecidableEq (InsertionMap κ α) := fun a b =>
  decidable_of_iff (a.entries = b.entries) (by cases a; cases b; simp)

def singleton (key : κ) (value : α) : InsertionMap κ α := ⟨[(key, value)], by simp⟩

def keys (map : InsertionMap κ α) : List κ := map.entries.map Prod.fst

def values (map : InsertionMap κ α) : List α := map.entries.map Prod.snd

def size (map : InsertionMap κ α) : Nat := map.entries.length

def isEmpty (map : InsertionMap κ α) : Bool := map.entries.isEmpty

variable [DecidableEq κ]

/-- The value at a key. -/
def get? (map : InsertionMap κ α) (key : κ) : Option α := map.entries.lookup key

@[simp] theorem get?_empty (key : κ) : (∅ : InsertionMap κ α).get? key = none := rfl

theorem get?_eq_none_iff (map : InsertionMap κ α) (key : κ) :
    map.get? key = none ↔ key ∉ map.keys := lookup_eq_none_iff_notMem

theorem mem_keys_of_get? {map : InsertionMap κ α} {key : κ} {value : α}
    (found : map.get? key = some value) : key ∈ map.keys := by
  refine Decidable.of_not_not fun absent => ?_
  rw [(map.get?_eq_none_iff key).mpr absent] at found
  contradiction

/-- What is made of the keys, and of what stands at each, is made of the entries. -/
theorem filterMap_keys_get? {β : Type} (map : InsertionMap κ α) (make : κ → Option α → Option β) :
    map.keys.filterMap (fun key => make key (map.get? key)) =
      map.entries.filterMap fun entry => make entry.1 (some entry.2) := by
  have found : ∀ entry ∈ map.entries,
      make entry.1 (map.get? entry.1) = make entry.1 (some entry.2) := by
    intro entry member
    rw [get?, (mem_iff_lookup map.distinct).mp member]
  calc map.keys.filterMap (fun key => make key (map.get? key))
      = (map.entries.map fun entry => make entry.1 (map.get? entry.1)).filterMap id := by
        rw [keys, List.filterMap_map, List.filterMap_map]
        rfl
    _ = (map.entries.map fun entry => make entry.1 (some entry.2)).filterMap id := by
        rw [List.map_congr_left found]
    _ = map.entries.filterMap fun entry => make entry.1 (some entry.2) := List.filterMap_map

/-- A map is its keys in order and what stands at each. -/
theorem filterMap_keys (map : InsertionMap κ α) :
    map.keys.filterMap (fun key => (map.get? key).map fun value => (key, value)) =
      map.entries :=
  (map.filterMap_keys_get? fun key held => held.map fun value => (key, value)).trans
    List.filterMap_some

theorem values_eq_filterMap (map : InsertionMap κ α) :
    map.values = map.keys.filterMap map.get? := by
  rw [map.filterMap_keys_get? fun _ held => held, values, ← List.filterMap_eq_map]
  rfl

theorem ext_get? {first second : InsertionMap κ α} (keys : first.keys = second.keys)
    (same : ∀ key, first.get? key = second.get? key) : first = second := by
  have entries : first.entries = second.entries := by
    rw [← filterMap_keys, ← filterMap_keys, keys]
    simp only [same]
  cases first
  cases second
  congr 1

/-- Sets the value at a key where the key stands, or at the end when it is new. -/
def put (key : κ) (value : α) : List (κ × α) → List (κ × α)
  | [] => [(key, value)]
  | entry :: rest =>
    if entry.1 = key then (entry.1, value) :: rest else entry :: put key value rest

theorem map_fst_put (key : κ) (value : α) (entries : List (κ × α)) :
    (put key value entries).map Prod.fst =
      if key ∈ entries.map Prod.fst then entries.map Prod.fst
      else entries.map Prod.fst ++ [key] := by
  induction entries with
  | nil => simp [put]
  | cons entry rest ih =>
    by_cases h : entry.1 = key
    · simp [put, h]
    · have hne : ¬ key = entry.1 := fun e => h e.symm
      simp only [put, h, if_false, List.map_cons, ih, List.mem_cons, hne, false_or]
      split <;> rfl

theorem put_distinct {key : κ} {value : α} {entries : List (κ × α)}
    (h : (entries.map Prod.fst).Nodup) : ((put key value entries).map Prod.fst).Nodup := by
  rw [map_fst_put]
  split
  · exact h
  · rename_i hnew
    rw [List.nodup_append]
    exact ⟨h, by simp, fun a ha b hb e => hnew (by
      rw [List.mem_singleton.mp hb] at e; exact e ▸ ha)⟩

theorem put_of_notMem {key : κ} {value : α} {entries : List (κ × α)}
    (new : key ∉ entries.map Prod.fst) : put key value entries = entries ++ [(key, value)] := by
  induction entries with
  | nil => rfl
  | cons entry rest ih =>
    rw [List.map_cons, List.mem_cons, not_or] at new
    rw [put, if_neg (Ne.symm new.1), ih new.2, List.cons_append]

theorem lookup_put (key sought : κ) (value : α) (entries : List (κ × α)) :
    (put key value entries).lookup sought =
      if sought = key then some value else entries.lookup sought := by
  induction entries with
  | nil => rw [put, lookup_cons_ite]
  | cons entry rest ih =>
    obtain ⟨first, old⟩ := entry
    by_cases hk : first = key
    · subst hk
      by_cases h : sought = first <;> simp [put, lookup_cons_ite, h]
    · by_cases h : sought = first
      · simp [put, hk, h]
      · simp [put, hk, lookup_cons_ite, h, ih]

/-- Sets the value at a key. -/
def insert (map : InsertionMap κ α) (key : κ) (value : α) : InsertionMap κ α :=
  ⟨put key value map.entries, put_distinct map.distinct⟩

theorem get?_insert (map : InsertionMap κ α) (key sought : κ) (value : α) :
    (map.insert key value).get? sought = if sought = key then some value else map.get? sought :=
  lookup_put key sought value map.entries

theorem keys_insert (map : InsertionMap κ α) (key : κ) (value : α) :
    (map.insert key value).keys = if key ∈ map.keys then map.keys else map.keys ++ [key] :=
  map_fst_put key value map.entries

/-- Sets the value of each pair in turn: a key keeps its first place and takes its last value. -/
def insertAll (map : InsertionMap κ α) (pairs : List (κ × α)) : InsertionMap κ α :=
  pairs.foldl (fun map pair => map.insert pair.1 pair.2) map

theorem insertAll_append (map : InsertionMap κ α) (earlier later : List (κ × α)) :
    map.insertAll (earlier ++ later) = (map.insertAll earlier).insertAll later := by
  simp only [insertAll, List.foldl_append]

/-- The last pair of a key counts. -/
theorem get?_insertAll (map : InsertionMap κ α) (pairs : List (κ × α)) (key : κ) :
    (map.insertAll pairs).get? key = (pairs.reverse.lookup key).or (map.get? key) := by
  induction pairs generalizing map with
  | nil => rfl
  | cons pair rest ih =>
    have first : (map.insert pair.1 pair.2).get? key = ([pair].lookup key).or (map.get? key) := by
      rw [get?_insert, lookup_cons_ite]
      by_cases same : key = pair.1 <;> simp [same]
    change ((map.insert pair.1 pair.2).insertAll rest).get? key = _
    rw [ih, first, ← Option.or_assoc, ← List.lookup_append, List.reverse_cons]

/-- Every key stands where it came up first. -/
theorem keys_insertAll (map : InsertionMap κ α) (pairs : List (κ × α)) :
    (map.insertAll pairs).keys = (map.keys ++ pairs.map Prod.fst).eraseDups := by
  induction pairs generalizing map with
  | nil =>
    have kept : map.keys.eraseDups = map.keys := eraseDups_of_nodup map.distinct
    rw [List.map_nil, List.append_nil, kept]
    rfl
  | cons pair rest ih =>
    change ((map.insert pair.1 pair.2).insertAll rest).keys = _
    rw [ih, keys_insert, List.map_cons]
    split
    · rename_i present
      exact (eraseDups_append_cons_of_mem present).symm
    · rw [List.append_assoc, List.singleton_append]

def ofList (pairs : List (κ × α)) : InsertionMap κ α := insertAll ∅ pairs

theorem get?_ofList (pairs : List (κ × α)) (key : κ) :
    (ofList pairs).get? key = pairs.reverse.lookup key := by
  rw [ofList, get?_insertAll, get?_empty, Option.or_none]

theorem keys_ofList (pairs : List (κ × α)) :
    (ofList pairs).keys = (pairs.map Prod.fst).eraseDups := keys_insertAll ∅ pairs

/-- The entries of `later` set over those of `earlier`. -/
def union (earlier later : InsertionMap κ α) : InsertionMap κ α :=
  earlier.insertAll later.entries

theorem get?_union (earlier later : InsertionMap κ α) (key : κ) :
    (earlier.union later).get? key = (later.get? key).or (earlier.get? key) := by
  rw [union, get?_insertAll, lookup_reverse later.distinct]
  rfl

theorem keys_union (earlier later : InsertionMap κ α) :
    (earlier.union later).keys = (earlier.keys ++ later.keys).eraseDups :=
  keys_insertAll earlier later.entries

/-- The new keys of the later map come behind those of the earlier one. -/
theorem keys_union_eq_append (earlier later : InsertionMap κ α) :
    (earlier.union later).keys =
      earlier.keys ++ later.keys.filter fun key => key ∉ earlier.keys := by
  have kept : earlier.keys.eraseDups = earlier.keys := eraseDups_of_nodup earlier.distinct
  have new : later.keys.removeAll earlier.keys =
      later.keys.filter fun key => key ∉ earlier.keys :=
    List.filter_congr fun key _ => by simp
  have distinct : (later.keys.filter fun key => key ∉ earlier.keys).Nodup :=
    later.distinct.sublist List.filter_sublist
  rw [keys_union, List.eraseDups_append, kept, new, eraseDups_of_nodup distinct]

/-- The entries of the earlier map keep their places and take the later values; the new ones
follow. -/
theorem entries_union (earlier later : InsertionMap κ α) :
    (earlier.union later).entries =
      (earlier.entries.map fun entry => (entry.1, (later.get? entry.1).getD entry.2)) ++
        later.entries.filter fun entry => entry.1 ∉ earlier.keys := by
  have kept : (earlier.keys.filterMap fun key =>
        ((later.get? key).or (earlier.get? key)).map fun value => (key, value)) =
      earlier.entries.map fun entry => (entry.1, (later.get? entry.1).getD entry.2) := by
    rw [earlier.filterMap_keys_get? fun key held =>
      ((later.get? key).or held).map fun value => (key, value), ← List.filterMap_eq_map]
    simp only [Option.or_some, Option.map_some, Function.comp_def]
  have new : ((later.keys.filter fun key => key ∉ earlier.keys).filterMap fun key =>
        ((later.get? key).or (earlier.get? key)).map fun value => (key, value)) =
      later.entries.filter fun entry => entry.1 ∉ earlier.keys := by
    rw [List.filterMap_filter, later.filterMap_keys_get? fun key held =>
      if decide (key ∉ earlier.keys) = true then
        (held.or (earlier.get? key)).map fun value => (key, value) else none,
      ← List.filterMap_eq_filter]
    rfl
  rw [← filterMap_keys, keys_union_eq_append, List.filterMap_append]
  simp only [get?_union, kept, new]

@[simp] theorem union_empty (map : InsertionMap κ α) : map.union ∅ = map := rfl

@[simp] theorem empty_union (map : InsertionMap κ α) : union ∅ map = map := by
  apply ext_get?
  · exact (keys_union ∅ map).trans (eraseDups_of_nodup map.distinct)
  · intro key
    rw [get?_union, get?_empty, Option.or_none]

theorem union_assoc (first second third : InsertionMap κ α) :
    (first.union second).union third = first.union (second.union third) := by
  apply ext_get?
  · have new : third.keys.filter (fun key => key ∉ first.keys ++
          second.keys.filter fun key => key ∉ first.keys) =
        (third.keys.filter fun key => key ∉ second.keys).filter fun key => key ∉ first.keys := by
      rw [List.filter_filter]
      refine List.filter_congr fun key _ => ?_
      by_cases present : key ∈ first.keys <;> simp [present]
    simp only [keys_union_eq_append, List.filter_append, new, List.append_assoc]
  · intro key
    simp only [get?_union, Option.or_assoc]

theorem union_self (map : InsertionMap κ α) : map.union map = map := by
  apply ext_get?
  · rw [keys_union_eq_append, List.filter_eq_nil_iff.mpr, List.append_nil]
    simp
  · intro key
    rw [get?_union, Option.or_self]

theorem lookup_filter_ne (key sought : κ) (entries : List (κ × α)) :
    (entries.filter (·.1 ≠ key)).lookup sought =
      if sought = key then none else entries.lookup sought := by
  induction entries with
  | nil => simp
  | cons entry rest ih =>
    obtain ⟨first, old⟩ := entry
    rw [List.filter_cons]
    split
    · rename_i hk
      have hk : first ≠ key := by simpa using hk
      rw [lookup_cons_ite, ih, lookup_cons_ite]
      by_cases h : sought = first <;> simp [h, hk]
    · rename_i hk
      have hk : first = key := by simpa using hk
      rw [ih, lookup_cons_ite, hk]
      by_cases h : sought = key <;> simp [h]

/-- Removes a key; the other entries keep their order. -/
def erase (map : InsertionMap κ α) (key : κ) : InsertionMap κ α :=
  ⟨map.entries.filter (·.1 ≠ key), map.distinct.sublist (List.filter_sublist.map Prod.fst)⟩

theorem get?_erase (map : InsertionMap κ α) (key sought : κ) :
    (map.erase key).get? sought = if sought = key then none else map.get? sought :=
  lookup_filter_ne key sought map.entries

end InsertionMap

end ScopeCascade
