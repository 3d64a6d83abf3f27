/-! Binary floating point numbers of 64 bits: a sign, 11 bits of exponent and 52 of fraction. -/
namespace ScopeCascade

structure Binary64 where
  bits : UInt64
deriving DecidableEq, Inhabited

namespace Binary64

def isNegative (x : Binary64) : Bool := x.bits >>> 63 = 1

def exponentField (x : Binary64) : Nat := (x.bits >>> 52 &&& 0x7FF).toNat

def fraction (x : Binary64) : Nat := (x.bits &&& 0xFFFFFFFFFFFFF).toNat

/-- The bit in front of the fraction, which normal numbers have. -/
def leadingBit : Nat := 0x10000000000000

/-- The magnitude of a finite number is `significand * 2 ^ exponent`. -/
def significand (x : Binary64) : Nat :=
  if x.exponentField = 0 then x.fraction else x.fraction + leadingBit

def exponent (x : Binary64) : Int :=
  if x.exponentField = 0 then -1074 else x.exponentField - 1075

def isZero (x : Binary64) : Bool := x.significand = 0

/-- The number with a given sign and magnitude `significand * 2 ^ exponent`. The significand has 53
bits at most, and no fewer unless `exponent = -1074`. -/
def ofParts (negative : Bool) (significand : Nat) (exponent : Int) : Binary64 :=
  let sign : UInt64 := if negative then 0x8000000000000000 else 0
  if significand < leadingBit then ⟨sign ||| UInt64.ofNat significand⟩
  else
    let field := UInt64.ofNat (exponent + 1075).toNat
    ⟨sign ||| field <<< 52 ||| UInt64.ofNat (significand - leadingBit)⟩

end Binary64

end ScopeCascade
