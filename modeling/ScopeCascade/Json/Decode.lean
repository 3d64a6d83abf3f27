import ScopeCascade.Json.Basic
import ScopeCascade.Text.Quoted

/-! Reading typed data out of JSON values. A record is written as a dictionary or as the list of its
fields in declaration order. -/
namespace ScopeCascade.Json

/-- What a place in a value may have to hold. -/
inductive Expectation
  | string | sequence | byte | unit | variant
  | record (name : String)
deriving DecidableEq

def Expectation.text : Expectation → String
  | string => "a string"
  | sequence => "a sequence"
  | byte => "u8"
  | unit => "unit"
  | variant => "string or map"
  | record name => "struct " ++ name

/-- Why a value does not hold the data asked for. -/
inductive DecodeError
  | wrongType (found : Json) (expected : Expectation)
  | outOfRange (found : Int) (expected : Expectation)
  | missingField (name : String)
  | unknownVariant (name : String) (variants : List String)
  | severalVariants
  | tooShort (length : Nat) (record : String) (fields : Nat)
  | tooLong (length : Nat)

/-- A value as messages name it. -/
def described : Json → String
  | null => "null"
  | bool value => "boolean `" ++ (if value then "true" else "false") ++ "`"
  | number (.integer value) => "integer `" ++ toString value ++ "`"
  | number (.real value) => "floating point `" ++ (Number.real value).text ++ "`"
  | string value => "string " ++ Text.quoted value
  | array _ => "sequence"
  | object _ => "map"

namespace DecodeError

def message : DecodeError → String
  | wrongType found expected =>
    "invalid type: " ++ described found ++ ", expected " ++ expected.text
  | outOfRange found expected =>
    "invalid value: integer `" ++ toString found ++ "`, expected " ++ expected.text
  | missingField name => "missing field `" ++ name ++ "`"
  | unknownVariant name variants =>
    "unknown variant `" ++ name ++ "`, expected one of " ++
      ", ".intercalate (variants.map fun variant => "`" ++ variant ++ "`")
  | severalVariants => "invalid value: map, expected map with a single key"
  | tooShort length record fields =>
    "invalid length " ++ toString length ++ ", expected struct " ++ record ++ " with " ++
      toString fields ++ (if fields = 1 then " element" else " elements")
  | tooLong length =>
    "invalid length " ++ toString length ++ ", expected fewer elements in array"

end DecodeError

def decodeString : Json → Except DecodeError String
  | string value => .ok value
  | found => .error (.wrongType found .string)

def decodeByte : Json → Except DecodeError UInt8
  | number (.integer value) =>
    if 0 ≤ value ∧ value < 256 then .ok value.toNat.toUInt8 else .error (.outOfRange value .byte)
  | found => .error (.wrongType found .byte)

/-- A list of values of one form. -/
def decodeList {α : Type} (decode : Json → Except DecodeError α) :
    Json → Except DecodeError (List α)
  | array elements => elements.mapM decode
  | found => .error (.wrongType found .sequence)

/-- A value that may be absent, which `null` says too. -/
def decodeOptional {α : Type} (decode : Json → Except DecodeError α) :
    Json → Except DecodeError (Option α)
  | null => .ok none
  | value => (decode value).map some

/-- One of several names, alone or as the key of a dictionary that holds nothing else. -/
def decodeVariant {α : Type} (variants : List (String × α)) (value : Json) :
    Except DecodeError α := do
  let choose (name : String) : Except DecodeError α :=
    match variants.lookup name with
    | some choice => .ok choice
    | none => .error (.unknownVariant name (variants.map Prod.fst))
  match value with
  | string name => choose name
  | object fields =>
    match (SortedMap.ofList fields).entries with
    | [(name, content)] =>
      let choice ← choose name
      match content with
      | null => .ok choice
      | found => .error (.wrongType found .unit)
    | _ => .error .severalVariants
  | found => .error (.wrongType found .variant)

/-- How a record of type `ρ` is read: its name, the names of its fields in declaration order, how
many of them a list has to hold, and how one field is set. Fields of other names are ignored. -/
structure RecordForm (ρ : Type) where
  name : String
  fields : List String
  required : Nat
  start : ρ
  set : ρ → String → Json → Except DecodeError ρ

/-- The fields are read in the order of their names, or of the list. -/
def decodeRecord {ρ : Type} (form : RecordForm ρ) : Json → Except DecodeError ρ
  | object fields =>
    (SortedMap.ofList fields).entries.foldlM
      (fun record (name, value) => form.set record name value) form.start
  | array elements => do
    let record ← (form.fields.zip elements).foldlM
      (fun record (name, value) => form.set record name value) form.start
    if elements.length < form.required then
      .error (.tooShort elements.length form.name form.fields.length)
    else if form.fields.length < elements.length then .error (.tooLong elements.length)
    else .ok record
  | found => .error (.wrongType found (.record form.name))

theorem bind_eq_ok_iff {ε α β : Type} {first : Except ε α} {next : α → Except ε β} {result : β} :
    first >>= next = .ok result ↔ ∃ value, first = .ok value ∧ next value = .ok result := by
  cases first with
  | error error => simp [bind, Except.bind]
  | ok value => simp [bind, Except.bind]

section Part

variable {ρ α : Type} {form : RecordForm ρ} {name : String} {decode : Json → Except DecodeError α}
  {part : ρ → α}

/-- A part of a record that only the field of one name sets holds what that field says. -/
theorem foldlM_field
    (sets : ∀ before field value after, form.set before field value = .ok after →
      if field = name then decode value = .ok (part after) else part after = part before)
    {entries : List (String × Json)} (distinct : (entries.map Prod.fst).Nodup) {start record : ρ}
    (read : entries.foldlM (fun record (field, value) => form.set record field value) start =
      .ok record) :
    match entries.lookup name with
    | none => part record = part start
    | some value => decode value = .ok (part record) := by
  induction entries generalizing start with
  | nil =>
    cases read
    rfl
  | cons entry rest ih =>
    obtain ⟨field, value⟩ := entry
    obtain ⟨new, distinctRest⟩ := List.nodup_cons.mp distinct
    rw [List.foldlM_cons] at read
    obtain ⟨next, set, later⟩ := bind_eq_ok_iff.mp read
    have first := sets start field value next set
    have held := ih distinctRest later
    rw [lookup_cons_ite]
    by_cases same : name = field
    · -- The name does not come up again behind its own field.
      subst same
      rw [if_pos rfl] at first
      rw [lookup_eq_none_iff_notMem.mpr new] at held
      rw [if_pos rfl, held]
      exact first
    · rw [if_neg (Ne.symm same)] at first
      rw [first] at held
      rw [if_neg same]
      exact held

theorem decodeRecord_field
    (sets : ∀ before field value after, form.set before field value = .ok after →
      if field = name then decode value = .ok (part after) else part after = part before)
    {fields : List (String × Json)} {record : ρ}
    (read : decodeRecord form (.object fields) = .ok record) :
    match (object fields).field? name with
    | none => part record = part form.start
    | some value => decode value = .ok (part record) :=
  foldlM_field sets (SortedMap.ofList fields).distinct read

end Part

/-- A field that has to be there. -/
def require {α : Type} (name : String) : Option α → Except DecodeError α
  | some value => .ok value
  | none => .error (.missingField name)

end ScopeCascade.Json
