import ScopeCascade.Proofs.Setting.Merging
import ScopeCascade.Proofs.Setting.Reading
import Mathlib.Data.List.Forall2

/-! The two forms of a list of variables. A dictionary means the same as the list of its entries in
the order of their names. One element that declares no variable drops all of a list; otherwise the
last element of each name counts, at the place of the first. -/
namespace ScopeCascade

section Traversal

variable {α β : Type} {f : α → Option β}

theorem mapM_eq_some_iff (items : List α) (results : List β) :
    items.mapM f = some results ↔
      List.Forall₂ (fun item result => f item = some result) items results := by
  induction items generalizing results with
  | nil => cases results <;> simp
  | cons item rest ih =>
    rw [List.mapM_cons]
    cases results with
    | nil => cases f item <;> cases rest.mapM f <;> simp
    | cons result results =>
      rw [List.forall₂_cons, ← ih]
      cases f item <;> cases rest.mapM f <;> simp

theorem mapM_eq_none_iff (items : List α) :
    items.mapM f = none ↔ ∃ item ∈ items, f item = none := by
  induction items with
  | nil => simp
  | cons item rest ih =>
    rw [List.mapM_cons, List.exists_mem_cons_iff, ← ih]
    cases f item <;> cases rest.mapM f <;> simp

end Traversal

namespace InsertionMap

variable {κ α : Type} [DecidableEq κ]

theorem ofList_entries (map : InsertionMap κ α) : ofList map.entries = map := empty_union map

theorem ofList_of_nodup {pairs : List (κ × α)} (distinct : (pairs.map Prod.fst).Nodup) :
    (ofList pairs).entries = pairs :=
  congrArg entries (ofList_entries ⟨pairs, distinct⟩)

end InsertionMap

namespace Setting

/-- The text of a variable with a value: texts stand for themselves, numbers and truth values are
written out. -/
inductive Spells : Json → String → Prop
  | string (text : String) : Spells (.string text) text
  | number (value : Json.Number) : Spells (.number value) value.text
  | yes : Spells (.bool true) "true"
  | no : Spells (.bool false) "false"

/-- A dictionary with the name of a variable and a value with its text. -/
def Declares (element : Json) (pair : String × String) : Prop :=
  ∃ dictionary value, element.dictionary? = some dictionary ∧
    dictionary.get? "name" = some (.string pair.1) ∧ dictionary.get? "value" = some value ∧
    Spells value pair.2

theorem textOfJson?_eq_some_iff (value : Json) (text : String) :
    textOfJson? value = some text ↔ Spells value text := by
  constructor
  · intro read
    cases value with
    | string held => exact Option.some.inj read ▸ .string held
    | number held => exact Option.some.inj read ▸ .number held
    | bool held =>
      cases held with
      | true => exact Option.some.inj read ▸ .yes
      | false => exact Option.some.inj read ▸ .no
    | _ => contradiction
  · rintro (_ | _ | _ | _) <;> rfl

theorem string?_eq_some_iff (value : Json) (text : String) :
    value.string? = some text ↔ value = .string text := by
  cases value <;> simp [Json.string?]

theorem variableOfJson?_eq_some_iff (element : Json) (pair : String × String) :
    variableOfJson? element = some pair ↔ Declares element pair := by
  unfold variableOfJson? Declares Json.field?
  simp only [Option.bind_eq_bind, Option.bind_eq_some_iff, Option.pure_def, Option.some.injEq,
    string?_eq_some_iff, textOfJson?_eq_some_iff]
  constructor
  · rintro ⟨_, ⟨dictionary, is, named⟩, name, rfl, value, ⟨_, same, held⟩, text, spelled, rfl⟩
    obtain rfl := Option.some.inj (is.symm.trans same)
    exact ⟨dictionary, value, is, named, held, spelled⟩
  · rintro ⟨dictionary, value, is, named, held, spelled⟩
    exact ⟨_, ⟨dictionary, is, named⟩, pair.1, rfl, value, ⟨dictionary, is, held⟩, pair.2, spelled,
      rfl⟩

/-- A dictionary of variables as a list of its entries in the order of their names. -/
def listed (dictionary : Json.Dictionary) : Json :=
  .array (dictionary.entries.map fun entry =>
    .object [("name", .string entry.1), ("value", entry.2)])

theorem variableOfJson?_entry (entry : String × Json) :
    variableOfJson? (.object [("name", .string entry.1), ("value", entry.2)]) =
      (textOfJson? entry.2).map fun text => (entry.1, text) := by
  have name : Json.field? (.object [("name", .string entry.1), ("value", entry.2)]) "name" =
      some (.string entry.1) := by
    simp [Json.field?, Json.dictionary?, SortedMap.get?_ofList, lookup_cons_ite]
  have value : Json.field? (.object [("name", .string entry.1), ("value", entry.2)]) "value" =
      some entry.2 := by
    simp [Json.field?, Json.dictionary?, SortedMap.get?_ofList]
  rw [variableOfJson?, name, value]
  exact Option.map_eq_bind.symm

theorem variablesOfJson?_listed (fields : List (String × Json)) :
    variablesOfJson? (.object fields) = variablesOfJson? (listed (.ofList fields)) := by
  rw [variablesOfJson?, listed, variablesOfJson?, List.mapM_map]
  simp only [Function.comp_def, variableOfJson?_entry]

theorem ofJson_shellVariables (engine : Pattern.Engine) (value : Json) :
    ofJson engine .shellVariables value =
      match variablesOfJson? value with
      | some values => (some (.shellVariables values), [])
      | none => (none, [.droppedSetting "shellVariables" value.kind]) := by
  rw [ofJson]
  cases variablesOfJson? value <;> rfl

theorem variablesOfJson?_object (fields : List (String × Json)) (values : Variables) :
    variablesOfJson? (.object fields) = some values ↔
      List.Forall₂ (fun entry pair => entry.1 = pair.1 ∧ Spells entry.2 pair.2)
        (SortedMap.ofList fields).entries values.entries := by
  have each (entry : String × Json) (pair : String × String) :
      (textOfJson? entry.2).map (fun text => (entry.1, text)) = some pair ↔
        entry.1 = pair.1 ∧ Spells entry.2 pair.2 := by
    rw [Option.map_eq_some_iff]
    simp only [textOfJson?_eq_some_iff]
    constructor
    · rintro ⟨text, spelled, rfl⟩
      exact ⟨rfl, spelled⟩
    · rintro ⟨named, spelled⟩
      exact ⟨pair.2, spelled, by rw [named]⟩
  rw [variablesOfJson?, Option.map_eq_some_iff]
  simp only [mapM_eq_some_iff, each]
  constructor
  · rintro ⟨pairs, related, rfl⟩
    have names : List.Forall₂ Eq (SortedMap.ofList fields).keys (pairs.map Prod.fst) := by
      rw [SortedMap.keys, List.forall₂_map_left_iff, List.forall₂_map_right_iff]
      exact related.imp fun _ _ both => both.1
    rw [List.forall₂_eq_eq_eq] at names
    rwa [InsertionMap.ofList_of_nodup (names ▸ SortedMap.distinct _)]
  · intro related
    exact ⟨values.entries, related, InsertionMap.ofList_entries values⟩

theorem variablesOfJson?_array (elements : List Json) (values : Variables) :
    variablesOfJson? (.array elements) = some values ↔
      ∃ pairs, List.Forall₂ Declares elements pairs ∧
        values.keys = (pairs.map Prod.fst).eraseDups ∧
        ∀ name, values.get? name = pairs.reverse.lookup name := by
  rw [variablesOfJson?, Option.map_eq_some_iff]
  simp only [mapM_eq_some_iff, variableOfJson?_eq_some_iff]
  refine exists_congr fun pairs => and_congr_right fun _ => ?_
  constructor
  · rintro rfl
    exact ⟨InsertionMap.keys_ofList pairs, InsertionMap.get?_ofList pairs⟩
  · rintro ⟨keys, found⟩
    apply InsertionMap.ext_get?
    · rw [keys, InsertionMap.keys_ofList]
    · intro name
      rw [found, InsertionMap.get?_ofList]

theorem variablesOfJson?_object_eq_none (fields : List (String × Json)) :
    variablesOfJson? (.object fields) = none ↔
      ∃ entry ∈ (SortedMap.ofList fields).entries, ∀ text, ¬ Spells entry.2 text := by
  rw [variablesOfJson?, Option.map_eq_none_iff, mapM_eq_none_iff]
  refine exists_congr fun entry => and_congr_right fun _ => ?_
  rw [Option.map_eq_none_iff, Option.eq_none_iff_forall_ne_some]
  simp only [ne_eq, textOfJson?_eq_some_iff]

theorem variablesOfJson?_array_eq_none (elements : List Json) :
    variablesOfJson? (.array elements) = none ↔
      ∃ element ∈ elements, ∀ pair, ¬ Declares element pair := by
  rw [variablesOfJson?, Option.map_eq_none_iff, mapM_eq_none_iff]
  simp only [Option.eq_none_iff_forall_ne_some, ne_eq, variableOfJson?_eq_some_iff]

theorem ofJson_shellVariables_eq_some_iff (engine : Pattern.Engine) (value : Json)
    (values : Variables) :
    (ofJson engine .shellVariables value).1 = some (.shellVariables values) ↔
      variablesOfJson? value = some values := by
  rw [ofJson_shellVariables]
  cases variablesOfJson? value <;> simp

theorem ofJson_shellVariables_eq_none_iff (engine : Pattern.Engine) (value : Json) :
    (ofJson engine .shellVariables value).1 = none ↔ variablesOfJson? value = none := by
  rw [ofJson_shellVariables]
  cases variablesOfJson? value <;> simp

end Setting

namespace SettingsFragment

variable {engine : Pattern.Engine}

theorem get?_ofJson_eq_none {value : Json} {key : SettingKey}
    (unnamed : ∀ name, key ≠ .ofName name) : (ofJson engine value).1.get? key = none := by
  cases is : value.dictionary? with
  | none =>
    rw [ofJson, is]
    rfl
  | some dictionary =>
    refine Decidable.byContradiction fun found => ?_
    obtain ⟨name, _, named⟩ := exists_name_of_get?_ofJson is found
    exact unnamed name named

/-- Dictionaries whose fields are read alike have the same settings. -/
theorem ofJson_congr {value other : Json}
    (alike : ∀ name,
      ((value.field? name).bind fun held => (Setting.ofJson engine (.ofName name) held).1) =
        (other.field? name).bind fun held => (Setting.ofJson engine (.ofName name) held).1) :
    (ofJson engine value).1 = (ofJson engine other).1 := by
  refine eq_of_settings (SortedMap.ext_get? fun key => ?_)
  change (ofJson engine value).1.get? key = (ofJson engine other).1.get? key
  by_cases named : ∃ name, key = .ofName name
  · obtain ⟨name, rfl⟩ := named
    rw [get?_ofJson, get?_ofJson, alike]
  · have unnamed : ∀ name, key ≠ .ofName name := not_exists.mp named
    rw [get?_ofJson_eq_none unnamed, get?_ofJson_eq_none unnamed]

theorem field?_object_concat (fields : List (String × Json)) (last : String) (value : Json)
    (name : String) :
    Json.field? (.object (fields ++ [(last, value)])) name =
      if name = last then some value else Json.field? (.object fields) name := by
  simp only [Json.field?, Json.dictionary?, Option.bind_some, SortedMap.get?_ofList,
    List.reverse_concat, lookup_cons_ite]

open Setting in
/-- Variables may be declared in a dictionary or, to the same effect, in the list of its entries in
the order of their names. They are those of all entries, if each of them has a text. In a list of
any form the last element of a name counts, at the place of the first, if all elements declare a
variable. A list or dictionary that one element or entry spoils is dropped, with one warning. -/
theorem variables_in_either_form (engine : Pattern.Engine) (others fields : List (String × Json))
    (elements : List Json) (value : Json) (values : Variables) :
    let dictionary : Json.Dictionary := .ofList fields
    ((Setting.ofJson engine .shellVariables (.object fields)).1 =
          (Setting.ofJson engine .shellVariables (listed dictionary)).1 ∧
        (ofJson engine (.object (others ++ [("shellVariables", .object fields)]))).1 =
          (ofJson engine (.object (others ++ [("shellVariables", listed dictionary)]))).1) ∧
      ((Setting.ofJson engine .shellVariables (.object fields)).1 = some (.shellVariables values) ↔
        List.Forall₂ (fun entry pair => entry.1 = pair.1 ∧ Spells entry.2 pair.2)
          dictionary.entries values.entries) ∧
      ((Setting.ofJson engine .shellVariables (.object fields)).1 = none ↔
        ∃ entry ∈ dictionary.entries, ∀ text, ¬ Spells entry.2 text) ∧
      ((Setting.ofJson engine .shellVariables (.array elements)).1 = some (.shellVariables values) ↔
        ∃ pairs, List.Forall₂ Declares elements pairs ∧
          values.keys = (pairs.map Prod.fst).eraseDups ∧
          ∀ name, values.get? name = pairs.reverse.lookup name) ∧
      ((Setting.ofJson engine .shellVariables (.array elements)).1 ≠ none ↔
        ∀ element ∈ elements, ∃ pair, Declares element pair) ∧
      (Setting.ofJson engine .shellVariables value).2 =
        if (Setting.ofJson engine .shellVariables value).1 = none then
          [.droppedSetting "shellVariables" value.kind]
        else [] := by
  intro dictionary
  have same : (Setting.ofJson engine .shellVariables (.object fields)).1 =
      (Setting.ofJson engine .shellVariables (listed dictionary)).1 := by
    rw [ofJson_shellVariables, ofJson_shellVariables, variablesOfJson?_listed]
    cases variablesOfJson? (listed (.ofList fields)) <;> rfl
  refine ⟨⟨same, ofJson_congr fun name => ?_⟩, ?_, ?_, ?_, ?_, ?_⟩
  · rw [field?_object_concat, field?_object_concat]
    by_cases own : name = "shellVariables"
    · rw [if_pos own, if_pos own, own]
      exact same
    · rw [if_neg own, if_neg own]
  · rw [ofJson_shellVariables_eq_some_iff, variablesOfJson?_object]
  · rw [ofJson_shellVariables_eq_none_iff, variablesOfJson?_object_eq_none]
  · rw [ofJson_shellVariables_eq_some_iff, variablesOfJson?_array]
  · rw [ne_eq, ofJson_shellVariables_eq_none_iff, variablesOfJson?_array_eq_none]
    simp only [not_exists, not_and, not_forall, not_not]
  · rw [ofJson_shellVariables]
    cases variablesOfJson? value <;> rfl

example :
    let element (name : String) (value : Json) : Json :=
      .object [("value", value), ("name", .string name)]
    (Setting.ofJson engine .shellVariables (.array
        [element "A" (.bool true), element "B" (.string "x"),
          element "A" (.number (.integer 7))])).1 =
      some (.shellVariables (.ofList [("A", "7"), ("B", "x")])) := by cbv

end SettingsFragment

end ScopeCascade
