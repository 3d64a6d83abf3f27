import ScopeCascade.Json.Basic

/-! Writing JSON text on one line. -/
namespace ScopeCascade.Json

private def writtenChar (c : Char) : List Char :=
  if c = '"' then ['\\', '"']
  else if c = '\\' then ['\\', '\\']
  else if c.toNat < 0x20 then
    let digits := Nat.toDigits 16 c.toNat
    ['\\', 'u'] ++ List.replicate (4 - digits.length) '0' ++ digits
  else [c]

def writeString (text : String) : String :=
  String.ofList (['"'] ++ text.toList.flatMap writtenChar ++ ['"'])

mutual

/-- The text of a value; of several fields with one name only the last is written. -/
def write : Json → String
  | null => "null"
  | bool value => if value then "true" else "false"
  | number value => value.text
  | string value => writeString value
  | array elements => "[" ++ ",".intercalate (writeElements elements) ++ "]"
  | object fields =>
    "\x7b" ++ ",".intercalate ((SortedMap.ofList (writeFields fields)).entries.map
      fun (name, value) => writeString name ++ ":" ++ value) ++ "\x7d"

def writeElements : List Json → List String
  | [] => []
  | element :: rest => write element :: writeElements rest

def writeFields : List (String × Json) → List (String × String)
  | [] => []
  | (name, value) :: rest => (name, write value) :: writeFields rest

end

end ScopeCascade.Json
