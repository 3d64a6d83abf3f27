import ScopeCascade.Text.Bytes

/-! Bytes as text. Where they are not UTF-8, each longest run of bytes that begins a character but
does not end it, and each byte that begins none, is shown as one replacement character. -/
namespace ScopeCascade.Text

def replacement : Char := '\uFFFD'

/-- A character whose first bytes have been read. -/
structure Begun where
  /-- The bits so far. -/
  code : Nat
  /-- The number of bytes to come, not 0. -/
  missing : Nat
  /-- The bounds of the next byte. -/
  low : Nat := 0x80
  high : Nat := 0xBF

/-- A character that its first byte does not end. Second bytes that would spell a code with more
bytes than it takes, a surrogate or a code past the last one are out of bounds. -/
def Begun.ofFirst (byte mark missing : Nat) : Begun where
  code := byte - mark
  missing := missing
  low := if byte = 0xE0 then 0xA0 else if byte = 0xF0 then 0x90 else 0x80
  high := if byte = 0xED then 0x9F else if byte = 0xF4 then 0x8F else 0xBF

/-- What a first byte adds to the text, and the character that it begins. -/
def decodeFirst (byte : Nat) : List Char × Option Begun :=
  if byte < 0x80 then ([Char.ofNat byte], none)
  else if 0xC2 ≤ byte ∧ byte < 0xE0 then ([], some (.ofFirst byte 0xC0 1))
  else if 0xE0 ≤ byte ∧ byte < 0xF0 then ([], some (.ofFirst byte 0xE0 2))
  else if 0xF0 ≤ byte ∧ byte < 0xF5 then ([], some (.ofFirst byte 0xF0 3))
  else ([replacement], none)

/-- What a byte adds behind a character that may have begun, and the character that it leaves
begun. -/
def decodeNext (begun : Option Begun) (byte : Nat) : List Char × Option Begun :=
  match begun with
  | none => decodeFirst byte
  | some begun =>
    if begun.low ≤ byte ∧ byte ≤ begun.high then
      let code := begun.code * 64 + (byte - 0x80)
      if begun.missing = 1 then ([Char.ofNat code], none)
      else ([], some { code, missing := begun.missing - 1 })
    else
      -- The byte is looked at again as a first one.
      let (chars, next) := decodeFirst byte
      (replacement :: chars, next)

def decode : Option Begun → List UInt8 → List Char
  | none, [] => []
  | some _, [] => [replacement]
  | begun, byte :: rest =>
    let (chars, next) := decodeNext begun byte.toNat
    chars ++ decode next rest

def lossy (bytes : List UInt8) : List Char := decode none bytes

end ScopeCascade.Text
