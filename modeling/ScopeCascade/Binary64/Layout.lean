import ScopeCascade.Binary64.Shortest

/-! The text of a number: its shortest digits around a decimal point, or, outside a range of
magnitudes, before an exponent. -/
namespace ScopeCascade.Binary64

/-- Where positional notation ends: the least and the greatest power of ten of the first digit. -/
structure Layout where
  least : Int
  greatest : Int

/-- Numbers in data: `0.00001` and `1000000000000000.0`, but `1e-6` and `1e+16`. -/
def Layout.data : Layout := ⟨-5, 15⟩

def zeros (count : Int) : List Char := List.replicate count.toNat '0'

/-- The digits with the decimal point after the first `point` of them, one digit at least on either
side. -/
def positionalText (digits : List Char) (point : Int) : List Char :=
  let whole := if 0 < point then digits.take point.toNat ++ zeros (point - digits.length) else ['0']
  let part := zeros (-point) ++ digits.drop point.toNat
  whole ++ ['.'] ++ (if part.isEmpty then ['0'] else part)

/-- The first digit, the others behind a decimal point, and the power of ten of the first. -/
def scientificText (digits : List Char) (power : Int) : List Char :=
  let tail := digits.drop 1
  digits.take 1 ++ (if tail.isEmpty then [] else '.' :: tail) ++
    ['e', if power < 0 then '-' else '+'] ++ Nat.toDigits 10 power.natAbs

def Layout.render (layout : Layout) (x : Binary64) : String :=
  let decimal := x.shortestDecimal
  let digits := Nat.toDigits 10 decimal.digits
  let point := digits.length + decimal.scale
  let power := point - 1
  let body :=
    if layout.least ≤ power ∧ power ≤ layout.greatest then positionalText digits point
    else scientificText digits power
  String.ofList (if x.isNegative then '-' :: body else body)

end ScopeCascade.Binary64
