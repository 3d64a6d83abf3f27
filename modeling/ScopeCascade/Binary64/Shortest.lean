import ScopeCascade.Binary64.Basic

/-! The shortest decimal text of a binary number: the fewest digits of which the number is the
nearest one, and of those the digits closest to it. -/
namespace ScopeCascade.Binary64

/-- A positive number and the interval of reals that round to it, over a common denominator. -/
structure Neighbourhood where
  low : Nat
  value : Nat
  high : Nat
  den : Nat
  closed : Bool

/-- The reals that round to the magnitude of a number other than zero. -/
def neighbourhood (x : Binary64) : Neighbourhood :=
  let m := x.significand
  let below := if m = leadingBit ∧ 1 < x.exponentField then 1 else 2
  let scale := x.exponent - 2
  let up := scale.toNat
  ⟨(4 * m - below) <<< up, (4 * m) <<< up, (4 * m + 2) <<< up, 1 <<< (-scale).toNat, m % 2 = 0⟩

/-- The decimal number `digits * 10 ^ scale`. -/
structure Decimal where
  digits : Nat
  scale : Int
deriving DecidableEq

namespace Neighbourhood

/-- Whether `count` steps of `unit` over the denominator fall into the interval. -/
def admits (n : Neighbourhood) (count unit factor : Nat) : Bool :=
  if n.closed then n.low * factor ≤ count * unit && count * unit ≤ n.high * factor
  else n.low * factor < count * unit && count * unit < n.high * factor

/-- The point of the grid of multiples of `10 ^ scale` that rounds to the number and is nearest to
it; of two equally near ones the even one. -/
def onGrid (n : Neighbourhood) (scale : Int) : Option Decimal :=
  let unit := n.den * Nat.pow 10 scale.toNat
  let factor := Nat.pow 10 (-scale).toNat
  let floor := n.value * factor / unit
  let before := n.value * factor - floor * unit
  let after := (floor + 1) * unit - n.value * factor
  let pick (first second : Nat) : Option Decimal :=
    if n.admits first unit factor then some ⟨first, scale⟩
    else if n.admits second unit factor then some ⟨second, scale⟩
    else none
  if before < after ∨ (before = after ∧ floor % 2 = 0) then pick floor (floor + 1)
  else pick (floor + 1) floor

/-- The number of digits before the decimal point; zero or less below one tenth. -/
def integerDigits (n : Neighbourhood) : Int :=
  if n.den ≤ n.value then (Nat.toDigits 10 (n.value / n.den)).length
  else
    match (List.range 400).find? fun zeros => n.den ≤ n.value * Nat.pow 10 (zeros + 1) with
    | some zeros => -zeros
    | none => -400

/-- The first grid with a point in the interval, from one digit on; 17 always suffice. -/
def shortest (n : Neighbourhood) : Decimal :=
  let found := (List.range 17).findSome? fun (count : Nat) =>
    n.onGrid (n.integerDigits - (count + 1))
  found.getD ⟨0, 0⟩

end Neighbourhood

/-- The decimal without the zeros at its end. -/
def Decimal.strip (d : Decimal) : Decimal :=
  let zeros := ((Nat.toDigits 10 d.digits).reverse.takeWhile (· = '0')).length
  ⟨d.digits / Nat.pow 10 zeros, d.scale + zeros⟩

/-- The shortest decimal that reads back as the magnitude of the number. -/
def shortestDecimal (x : Binary64) : Decimal :=
  if x.isZero then ⟨0, 0⟩ else x.neighbourhood.shortest.strip

end ScopeCascade.Binary64
