import ScopeCascade.Binary64.Nearest
import ScopeCascade.Json.Basic
import ScopeCascade.Text.Digits

/-! Reading JSON text. Every reader takes the characters from where it stands and gives a value with
the characters that follow it. -/
namespace ScopeCascade.Json

private def skipSpace (text : List Char) : List Char :=
  text.dropWhile fun c => c = ' ' || c = '\t' || c = '\n' || c = '\r'

private def escapeCode? : Char → Option Nat
  | '"' => some 0x22
  | '\\' => some 0x5C
  | '/' => some 0x2F
  | 'b' => some 0x08
  | 'f' => some 0x0C
  | 'n' => some 0x0A
  | 'r' => some 0x0D
  | 't' => some 0x09
  | _ => none

/-- The code units of a string up to its closing quotation mark. -/
private def readUnits : List Char → Option (List Nat × List Char)
  | '"' :: rest => some ([], rest)
  | '\\' :: 'u' :: a :: b :: c :: d :: rest => do
    let unit ← Text.readHex? [a, b, c, d]
    let (units, rest) ← readUnits rest
    return (unit :: units, rest)
  | '\\' :: c :: rest => do
    let unit ← escapeCode? c
    let (units, rest) ← readUnits rest
    return (unit :: units, rest)
  | c :: rest => do
    if c.toNat < 0x20 then none
    let (units, rest) ← readUnits rest
    return (c.toNat :: units, rest)
  | [] => none

/-- Characters from code units: a high surrogate joins the low one that follows it. -/
private def joinUnits : List Nat → Option (List Char)
  | [] => some []
  | [unit] => if h : unit.isValidChar then some [Char.ofNatAux unit h] else none
  | unit :: next :: rest =>
    if 0xD800 ≤ unit ∧ unit < 0xDC00 then
      if 0xDC00 ≤ next ∧ next < 0xE000 then
        (joinUnits rest).map
          (Char.ofNat (0x10000 + (unit - 0xD800) * 0x400 + (next - 0xDC00)) :: ·)
      else none
    else if h : unit.isValidChar then (joinUnits (next :: rest)).map (Char.ofNatAux unit h :: ·)
    else none

private def readString (text : List Char) : Option (String × List Char) := do
  let (units, rest) ← readUnits text
  return (String.ofList (← joinUnits units), rest)

private def spanDigits (text : List Char) : List Char × List Char :=
  text.span fun c => '0' ≤ c ∧ c ≤ '9'

/-- An exponent, `none` where its mark has no digits behind it. -/
private def readExponent (text : List Char) : Option (Option Int × List Char) :=
  let signed (negative : Bool) (text : List Char) : Option (Option Int × List Char) :=
    match spanDigits text with
    | ([], _) => none
    | (digits, rest) =>
      let value : Int := Text.readDecimal digits
      some (some (if negative then -value else value), rest)
  match text with
  | e :: rest =>
    if e = 'e' ∨ e = 'E' then
      match rest with
      | '-' :: rest => signed true rest
      | '+' :: rest => signed false rest
      | rest => signed false rest
    else some (none, text)
  | [] => some (none, [])

/-- A number without its sign. Integers that do not fit, and the negative zero, are floating point
numbers. -/
private def readNumber (negative : Bool) (text : List Char) : Option (Number × List Char) := do
  let (whole, rest) := spanDigits text
  if whole.isEmpty ∨ (whole.head? = some '0' ∧ whole.length ≠ 1) then none
  let (part, rest) ← match rest with
    | '.' :: rest =>
      let (part, rest) := spanDigits rest
      if part.isEmpty then none else some (some part, rest)
    | rest => some (none, rest)
  let (power, rest) ← readExponent rest
  match part, power with
  | none, none =>
    let magnitude := Text.readDecimal whole
    let value : Int := if negative then -magnitude else magnitude
    if Number.isExact value ∧ ¬(negative ∧ magnitude = 0) then return (.integer value, rest)
    else return (.real (← Binary64.ofDecimal negative magnitude 0), rest)
  | part, power =>
    let part := part.getD []
    let digits := Text.readDecimal (whole ++ part)
    return (.real (← Binary64.ofDecimal negative digits (power.getD 0 - part.length)), rest)

mutual

private def readValue : Nat → List Char → Option (Json × List Char)
  | 0, _ => none
  | fuel + 1, text =>
    match skipSpace text with
    | 'n' :: 'u' :: 'l' :: 'l' :: rest => some (.null, rest)
    | 't' :: 'r' :: 'u' :: 'e' :: rest => some (.bool true, rest)
    | 'f' :: 'a' :: 'l' :: 's' :: 'e' :: rest => some (.bool false, rest)
    | '"' :: rest => (readString rest).map fun (value, rest) => (.string value, rest)
    | '-' :: rest => (readNumber true rest).map fun (value, rest) => (.number value, rest)
    | '[' :: rest =>
      match skipSpace rest with
      | ']' :: rest => some (.array [], rest)
      | rest => (readElements fuel rest).map fun (elements, rest) => (.array elements, rest)
    | '{' :: rest =>
      match skipSpace rest with
      | '}' :: rest => some (.object [], rest)
      | rest => (readFields fuel rest).map fun (fields, rest) => (.object fields, rest)
    | rest => (readNumber false rest).map fun (value, rest) => (.number value, rest)

private def readElements : Nat → List Char → Option (List Json × List Char)
  | 0, _ => none
  | fuel + 1, text => do
    let (element, rest) ← readValue fuel text
    match skipSpace rest with
    | ',' :: rest =>
      let (elements, rest) ← readElements fuel rest
      return (element :: elements, rest)
    | ']' :: rest => return ([element], rest)
    | _ => none

private def readFields : Nat → List Char → Option (List (String × Json) × List Char)
  | 0, _ => none
  | fuel + 1, text =>
    match skipSpace text with
    | '"' :: rest => do
      let (name, rest) ← readString rest
      match skipSpace rest with
      | ':' :: rest =>
        let (value, rest) ← readValue fuel rest
        match skipSpace rest with
        | ',' :: rest =>
          let (fields, rest) ← readFields fuel rest
          return ((name, value) :: fields, rest)
        | '}' :: rest => return ([(name, value)], rest)
        | _ => none
      | _ => none
    | _ => none

end

/-- The value that a text holds, with nothing but white space around it. -/
def ofText? (text : String) : Option Json := do
  let chars := text.toList
  let (value, rest) ← readValue (chars.length + 1) chars
  if (skipSpace rest).isEmpty then return value else none

end ScopeCascade.Json
