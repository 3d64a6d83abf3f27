/-! Decimal and hexadecimal digits. -/
namespace ScopeCascade.Text

def hexDigit? (c : Char) : Option Nat :=
  if '0' ≤ c ∧ c ≤ '9' then some (c.toNat - '0'.toNat)
  else if 'a' ≤ c ∧ c ≤ 'f' then some (c.toNat - 'a'.toNat + 10)
  else if 'A' ≤ c ∧ c ≤ 'F' then some (c.toNat - 'A'.toNat + 10)
  else none

def isHexDigit (c : Char) : Bool := (hexDigit? c).isSome

/-- The number that hexadecimal digits denote. -/
def readHex? (digits : List Char) : Option Nat :=
  digits.foldlM (fun value c => (hexDigit? c).map (16 * value + ·)) 0

/-- Whether the byte is a hexadecimal digit of ASCII. -/
def isHexByte (byte : UInt8) : Bool :=
  (0x30 ≤ byte && byte ≤ 0x39) || (0x41 ≤ byte && byte ≤ 0x46) || (0x61 ≤ byte && byte ≤ 0x66)

/-- The byte that hexadecimal digits denote; one `+` may stand before them. -/
def readHexByte? (text : List Char) : Option UInt8 := do
  let digits := if text.head? = some '+' then text.tail else text
  if digits.isEmpty then none
  let value ← readHex? digits
  if value < UInt8.size then some value.toUInt8 else none

/-- The number that decimal digits denote. -/
def readDecimal (digits : List Char) : Nat :=
  digits.foldl (fun value c => 10 * value + (c.toNat - '0'.toNat)) 0

end ScopeCascade.Text
