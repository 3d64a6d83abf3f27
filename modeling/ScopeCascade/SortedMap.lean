import ScopeCascade.Lookup

/-! Finite maps whose entries stand in the order of their keys. -/
namespace ScopeCascade

/-- A finite map, as the list of its entries in strictly increasing order of keys. -/
structure SortedMap (κ α : Type) [Ord κ] where
  entries : List (κ × α)
  increasing : entries.Pairwise fun a b => compare a.1 b.1 = .lt

namespace SortedMap

variable {κ α : Type} [Ord κ]

/-- Puts a value at its key's place among ordered entries; a value already there is combined with
the new one. -/
def place (combine : α → α → α) (key : κ) (value : α) : List (κ × α) → List (κ × α)
  | [] => [(key, value)]
  | entry :: rest =>
    match compare key entry.1 with
    | .lt => (key, value) :: entry :: rest
    | .eq => (entry.1, combine entry.2 value) :: rest
    | .gt => entry :: place combine key value rest

theorem mem_place {combine : α → α → α} {key : κ} {value : α} {entries : List (κ × α)}
    {found : κ × α} (h : found ∈ place combine key value entries) :
    found.1 = key ∨ ∃ entry ∈ entries, found.1 = entry.1 := by
  induction entries with
  | nil =>
    simp only [place, List.mem_singleton] at h
    exact .inl (by rw [h])
  | cons entry rest ih =>
    simp only [place] at h
    split at h
    · rcases List.mem_cons.mp h with rfl | h
      · exact .inl rfl
      · exact .inr ⟨found, h, rfl⟩
    · rcases List.mem_cons.mp h with rfl | h
      · exact .inr ⟨entry, by simp, rfl⟩
      · exact .inr ⟨found, by simp [h], rfl⟩
    · rcases List.mem_cons.mp h with rfl | h
      · exact .inr ⟨found, by simp, rfl⟩
      · rcases ih h with hk | ⟨e, he, hk⟩
        · exact .inl hk
        · exact .inr ⟨e, by simp [he], hk⟩

theorem place_increasing [Std.TransOrd κ] [Std.LawfulEqOrd κ] {combine : α → α → α} {key : κ}
    {value : α} {entries : List (κ × α)}
    (h : entries.Pairwise fun a b => compare a.1 b.1 = .lt) :
    (place combine key value entries).Pairwise fun a b => compare a.1 b.1 = .lt := by
  induction entries with
  | nil => simp [place]
  | cons entry rest ih =>
    have hrest := List.pairwise_cons.mp h
    simp only [place]
    split
    · rename_i hlt
      refine List.pairwise_cons.mpr ⟨fun b hb => ?_, h⟩
      rcases List.mem_cons.mp hb with rfl | hb
      · exact hlt
      · exact Std.TransCmp.lt_trans hlt (hrest.1 b hb)
    · exact List.pairwise_cons.mpr ⟨hrest.1, hrest.2⟩
    · rename_i hgt
      refine List.pairwise_cons.mpr ⟨fun b hb => ?_, ih hrest.2⟩
      rcases mem_place hb with hk | ⟨e, he, hk⟩
      · exact hk ▸ Std.OrientedCmp.lt_of_gt hgt
      · exact hk ▸ hrest.1 e he

theorem lookup_place [DecidableEq κ] [Std.TransOrd κ] [Std.LawfulEqOrd κ]
    (combine : α → α → α) (key sought : κ) (value : α) {entries : List (κ × α)}
    (h : entries.Pairwise fun a b => compare a.1 b.1 = .lt) :
    (place combine key value entries).lookup sought =
      if sought = key then some (((entries.lookup key).map (combine · value)).getD value)
      else entries.lookup sought := by
  induction entries with
  | nil => rw [place, lookup_cons_ite]; rfl
  | cons entry rest ih =>
    obtain ⟨first, old⟩ := entry
    obtain ⟨hfirst, hrest⟩ := List.pairwise_cons.mp h
    rw [place]
    split
    · rename_i hlt
      have habsent : ((first, old) :: rest).lookup key = none := by
        rw [List.lookup_eq_none_iff]
        intro found hfound
        rw [bne_iff_ne]
        rintro rfl
        rcases List.mem_cons.mp hfound with rfl | hfound
        · simp at hlt
        · simpa using Std.TransCmp.lt_trans hlt (hfirst found hfound)
      rw [lookup_cons_ite, habsent]
      rfl
    · rename_i heq
      have hk : key = first := Std.LawfulEqOrd.eq_of_compare heq
      rw [lookup_cons_ite, lookup_cons_ite, lookup_cons_ite, hk]
      by_cases hs : sought = first <;> simp [hs]
    · rename_i hgt
      have hk : key ≠ first := by
        rintro rfl
        simp at hgt
      rw [lookup_cons_ite, ih hrest, lookup_cons_ite, lookup_cons_ite, if_neg hk]
      by_cases hs : sought = first
      · simp [hs, Ne.symm hk]
      · simp [hs]

instance : EmptyCollection (SortedMap κ α) := ⟨⟨[], .nil⟩⟩

instance : Inhabited (SortedMap κ α) := ⟨∅⟩

instance [DecidableEq κ] [DecidableEq α] : DecidableEq (SortedMap κ α) := fun a b =>
  decidable_of_iff (a.entries = b.entries) (by cases a; cases b; simp)

theorem distinct [Std.LawfulEqOrd κ] (map : SortedMap κ α) : (map.entries.map Prod.fst).Nodup := by
  rw [List.Nodup, List.pairwise_map]
  apply map.increasing.imp
  intro a b less same
  simp [same] at less

/-- The value at a key. -/
def get? [DecidableEq κ] (map : SortedMap κ α) (key : κ) : Option α := map.entries.lookup key

@[simp] theorem get?_empty [DecidableEq κ] (key : κ) : (∅ : SortedMap κ α).get? key = none := rfl

def contains [DecidableEq κ] (map : SortedMap κ α) (key : κ) : Bool := (map.get? key).isSome

def keys (map : SortedMap κ α) : List κ := map.entries.map Prod.fst

def values (map : SortedMap κ α) : List α := map.entries.map Prod.snd

def size (map : SortedMap κ α) : Nat := map.entries.length

def isEmpty (map : SortedMap κ α) : Bool := map.entries.isEmpty

theorem length_keys (map : SortedMap κ α) : map.keys.length = map.size := List.length_map _

theorem get?_eq_none_iff [DecidableEq κ] (map : SortedMap κ α) (key : κ) :
    map.get? key = none ↔ key ∉ map.keys := lookup_eq_none_iff_notMem

variable [Std.TransOrd κ] [Std.LawfulEqOrd κ]

/-- Adds a value at a key; a value already there is combined with the new one. -/
def insertWith (combine : α → α → α) (map : SortedMap κ α) (key : κ) (value : α) :
    SortedMap κ α :=
  ⟨place combine key value map.entries, place_increasing map.increasing⟩

theorem get?_insertWith [DecidableEq κ] (combine : α → α → α) (map : SortedMap κ α)
    (key sought : κ) (value : α) :
    (map.insertWith combine key value).get? sought =
      if sought = key then some (((map.get? key).map (combine · value)).getD value)
      else map.get? sought :=
  lookup_place combine key sought value map.increasing

/-- Sets the value at a key. -/
def insert (map : SortedMap κ α) (key : κ) (value : α) : SortedMap κ α :=
  map.insertWith (fun _ new => new) key value

theorem get?_insert [DecidableEq κ] (map : SortedMap κ α) (key sought : κ) (value : α) :
    (map.insert key value).get? sought = if sought = key then some value else map.get? sought := by
  rw [insert, get?_insertWith]
  cases map.get? key <;> rfl

/-- Sets the value of each pair in turn, so the last pair of a key counts. -/
def insertAll (map : SortedMap κ α) (pairs : List (κ × α)) : SortedMap κ α :=
  pairs.foldl (fun map pair => map.insert pair.1 pair.2) map

/-- The last pair of a key counts. -/
theorem get?_insertAll [DecidableEq κ] (map : SortedMap κ α) (pairs : List (κ × α)) (key : κ) :
    (map.insertAll pairs).get? key = (pairs.reverse.lookup key).or (map.get? key) := by
  induction pairs generalizing map with
  | nil => rfl
  | cons pair rest ih =>
    have first : (map.insert pair.1 pair.2).get? key = ([pair].lookup key).or (map.get? key) := by
      rw [get?_insert, lookup_cons_ite]
      by_cases same : key = pair.1 <;> simp [same]
    change ((map.insert pair.1 pair.2).insertAll rest).get? key = _
    rw [ih, first, ← Option.or_assoc, ← List.lookup_append, List.reverse_cons]

def ofList (pairs : List (κ × α)) : SortedMap κ α := insertAll ∅ pairs

theorem get?_ofList [DecidableEq κ] (pairs : List (κ × α)) (key : κ) :
    (ofList pairs).get? key = pairs.reverse.lookup key := by
  rw [ofList, get?_insertAll, get?_empty, Option.or_none]

/-- A map is what stands at each key. -/
theorem ext_get? [DecidableEq κ] {first second : SortedMap κ α}
    (same : ∀ key, first.get? key = second.get? key) : first = second := by
  have nodup (map : SortedMap κ α) : map.entries.Nodup :=
    (List.pairwise_map.mp map.distinct).imp fun different same => different (congrArg Prod.fst same)
  have members : ∀ entry, entry ∈ first.entries ↔ entry ∈ second.entries := by
    intro entry
    have found : first.entries.lookup entry.1 = second.entries.lookup entry.1 := same entry.1
    rw [mem_iff_lookup first.distinct, mem_iff_lookup second.distinct, found]
  have entries : first.entries = second.entries := by
    refine List.Perm.eq_of_pairwise ?_ first.increasing second.increasing
      ((List.perm_ext_iff_of_nodup (nodup first) (nodup second)).mpr members)
    intro a b _ _ less greater
    exact absurd greater (Std.OrientedCmp.not_lt_of_lt less)
  cases first
  cases second
  congr 1

end SortedMap

end ScopeCascade
