import ScopeCascade.Kdl.Chars
import ScopeCascade.Text.Digits

/-! Numbers of KDL text, and the words that may stand for strings. -/
namespace ScopeCascade.Kdl.Word

/-- The text without a sign. -/
def unsigned : List Char → List Char
  | '+' :: rest | '-' :: rest => rest
  | text => text

private def value (base : Nat) (digits : List Char) : Nat :=
  (digits.filter (· ≠ '_')).foldl
    (fun value c => base * value + (Text.hexDigit? c).getD 0) 0

/-- Skips digits of a base, with underscores behind the first of them; their number is kept in 128
bits. -/
def skipDigits (base : Nat) (text : List Char) : Option (List Char) :=
  let isDigit (c : Char) : Bool := (Text.hexDigit? c).any (· < base)
  let digits := text.takeWhile fun c => isDigit c || c = '_'
  if digits.head?.any isDigit ∧ value base digits < Nat.pow 2 127 then
    some (text.drop digits.length)
  else none

/-- Skips whole digits, perhaps with digits behind a point and an exponent. -/
def skipDecimal (text : List Char) : Option (List Char) := do
  let rest ← match ← skipDigits 10 text with
    | '.' :: rest => skipDigits 10 rest
    | rest => some rest
  match rest with
  | 'e' :: exponent | 'E' :: exponent => skipDigits 10 (unsigned exponent)
  | rest => return rest

/-- Skips a number. -/
def skipNumber (text : List Char) : Option (List Char) :=
  match unsigned text with
  | '0' :: 'x' :: digits | '0' :: 'X' :: digits => skipDigits 16 digits
  | '0' :: 'o' :: digits | '0' :: 'O' :: digits => skipDigits 8 digits
  | '0' :: 'b' :: digits | '0' :: 'B' :: digits => skipDigits 2 digits
  | digits => skipDecimal digits

/-- Whether the word begins as numbers do, perhaps with a point first. -/
def looksNumeric (word : List Char) : Bool :=
  match unsigned word with
  | '.' :: c :: _ => c.isDigit
  | c :: _ => c.isDigit
  | [] => false

/-- Words that stand for values behind a number sign, and for nothing without it. -/
def isReserved (word : List Char) : Bool :=
  ["true", "false", "null", "inf", "nan"].contains (String.ofList word)

/-- Whether the word is a string without quotation marks. -/
def isIdentifier (word : List Char) : Bool :=
  !word.isEmpty && !looksNumeric word && !isReserved word

end ScopeCascade.Kdl.Word
