import ScopeCascade.Binary64.Layout
import ScopeCascade.SortedMap

/-! JSON values, the form in which bundles declare their data. -/
namespace ScopeCascade

namespace Json

/-- A number is an integer of at most 64 bits, signed or not, or a floating point number. -/
inductive Number
  | integer (value : Int)
  | real (value : Binary64)
deriving DecidableEq, Inhabited

namespace Number

/-- The integers that stay integers; all others are floating point numbers. -/
def isExact (value : Int) : Bool := -0x8000000000000000 ≤ value && value < 0x10000000000000000

/-- The value as a signed integer of 64 bits. -/
def signed? : Number → Option Int
  | integer value => if value < 0x8000000000000000 then some value else none
  | real _ => none

def text : Number → String
  | integer value => toString value
  | real value => Binary64.Layout.data.render value

end Number

end Json

/-- A value. The fields of a dictionary stand as written; `dictionary?` is what they mean. -/
inductive Json
  | null
  | bool (value : Bool)
  | number (value : Json.Number)
  | string (value : String)
  | array (elements : List Json)
  | object (fields : List (String × Json))
deriving Inhabited

namespace Json

mutual

/-- Whether two values are written the same. -/
def same : Json → Json → Bool
  | null, null => true
  | bool a, bool b => a = b
  | number a, number b => a = b
  | string a, string b => a = b
  | array a, array b => sameElements a b
  | object a, object b => sameFields a b
  | _, _ => false

def sameElements : List Json → List Json → Bool
  | [], [] => true
  | a :: as, b :: bs => same a b && sameElements as bs
  | _, _ => false

def sameFields : List (String × Json) → List (String × Json) → Bool
  | [], [] => true
  | (name, a) :: as, (other, b) :: bs => name = other && same a b && sameFields as bs
  | _, _ => false

end

mutual

theorem same_iff : (a b : Json) → (same a b = true ↔ a = b)
  | null, b => by cases b <;> simp [same]
  | bool _, b => by cases b <;> simp [same]
  | number _, b => by cases b <;> simp [same]
  | string _, b => by cases b <;> simp [same]
  | array a, b => by
    cases b with
    | array b => simp [same, sameElements_iff a b]
    | _ => simp [same]
  | object a, b => by
    cases b with
    | object b => simp [same, sameFields_iff a b]
    | _ => simp [same]

theorem sameElements_iff : (as bs : List Json) → (sameElements as bs = true ↔ as = bs)
  | [], bs => by cases bs <;> simp [sameElements]
  | a :: as, bs => by
    cases bs with
    | nil => simp [sameElements]
    | cons b bs => simp [sameElements, same_iff a b, sameElements_iff as bs]

theorem sameFields_iff : (as bs : List (String × Json)) → (sameFields as bs = true ↔ as = bs)
  | [], bs => by cases bs <;> simp [sameFields]
  | (name, a) :: as, bs => by
    cases bs with
    | nil => simp [sameFields]
    | cons b bs => simp [sameFields, Prod.ext_iff, same_iff a b.2, sameFields_iff as bs]

end

instance : DecidableEq Json := fun a b => decidable_of_iff _ (same_iff a b)

/-- The kinds of value. -/
inductive Kind
  | null | bool | number | string | array | dictionary
deriving DecidableEq

def Kind.name : Kind → String
  | null => "null"
  | bool => "bool"
  | number => "number"
  | string => "string"
  | array => "array"
  | dictionary => "dictionary"

def kind : Json → Kind
  | null => .null
  | bool _ => .bool
  | number _ => .number
  | string _ => .string
  | array _ => .array
  | object _ => .dictionary

/-- Fields by name, in the order of their names; the last field of a name counts. -/
abbrev Dictionary := SortedMap String Json

def dictionary? : Json → Option Dictionary
  | object fields => some (SortedMap.ofList fields)
  | _ => none

def string? : Json → Option String
  | string value => some value
  | _ => none

def elements? : Json → Option (List Json)
  | array elements => some elements
  | _ => none

/-- The field of a dictionary with a given name. -/
def field? (value : Json) (name : String) : Option Json := value.dictionary?.bind (·.get? name)

end Json

end ScopeCascade
