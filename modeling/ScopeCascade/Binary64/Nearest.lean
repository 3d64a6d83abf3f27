import ScopeCascade.Binary64.Basic

/-! Rounding a decimal number to the nearest binary one; halfway cases go to the even
significand. -/
namespace ScopeCascade.Binary64

/-- A quotient rounded to the nearest integer, halves to the even one. -/
def roundDiv (num den : Nat) : Nat :=
  let floor := num / den
  let twice := 2 * (num % den)
  if twice < den ∨ (twice = den ∧ floor % 2 = 0) then floor else floor + 1

/-- The exponent of the binary grid on which `num / den` is rounded: 53 bits above it, and never
below the finest grid. -/
def gridExponent (num den : Nat) : Int :=
  let guess : Int := (Nat.log2 num : Int) - Nat.log2 den - 53
  let tooFine : Bool :=
    if 0 ≤ guess then den <<< (53 + guess.toNat) ≤ num
    else den <<< 53 ≤ num <<< (-guess).toNat
  max (if tooFine then guess + 1 else guess) (-1074)

/-- The number nearest to the positive fraction `num / den`, or `none` past the largest one. -/
def ofFraction (negative : Bool) (num den : Nat) : Option Binary64 :=
  let exponent := gridExponent num den
  let rounded :=
    if 0 ≤ exponent then roundDiv num (den <<< exponent.toNat)
    else roundDiv (num <<< (-exponent).toNat) den
  let (significand, exponent) :=
    if rounded = 2 * leadingBit then (leadingBit, exponent + 1) else (rounded, exponent)
  if exponent ≤ 971 then some (ofParts negative significand exponent) else none

/-- The number nearest to `digits * 10 ^ scale`, or `none` past the largest one. -/
def ofDecimal (negative : Bool) (digits : Nat) (scale : Int) : Option Binary64 :=
  let magnitude : Int := (Nat.toDigits 10 digits).length + scale
  if digits = 0 ∨ magnitude < -400 then some (ofParts negative 0 (-1074))
  else if 400 < magnitude then none
  else if 0 ≤ scale then ofFraction negative (digits * Nat.pow 10 scale.toNat) 1
  else ofFraction negative digits (Nat.pow 10 (-scale).toNat)

end ScopeCascade.Binary64
