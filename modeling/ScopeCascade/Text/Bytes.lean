import ScopeCascade.Text.Blank

/-! Texts by their bytes in UTF-8, which a text can be cut at only between characters. -/
namespace ScopeCascade.Text

def bytes (text : List Char) : List UInt8 := text.flatMap String.utf8EncodeChar

/-- The text before and after a byte; there is no such cut within a character or past the end. -/
def cut? : Nat → List Char → Option (List Char × List Char)
  | 0, text => some ([], text)
  | _ + 1, [] => none
  | index + 1, c :: rest =>
    if index + 1 < c.utf8Size then none
    else (cut? (index + 1 - c.utf8Size) rest).map fun halves => (c :: halves.1, halves.2)

/-- The text from one byte to another. -/
def slice? (start stop : Nat) (text : List Char) : Option (List Char) := do
  if stop < start then none
  let (_, rest) ← cut? start text
  let (piece, _) ← cut? (stop - start) rest
  return piece

end ScopeCascade.Text
