import ScopeCascade.Text.CaseFold
import ScopeCascade.Text.WordChars

/-! Sets of characters, as a pattern's classes describe them. -/
namespace ScopeCascade.Pattern

/-- Closed ranges of code points, in ascending order and with gaps between them. -/
structure CharSet where
  ranges : List (Nat × Nat)

namespace CharSet

/-- Joins ranges that overlap or touch; they are in the order of their first code points. -/
def join : List (Nat × Nat) → List (Nat × Nat)
  | (first, last) :: (next, end_) :: rest =>
    if next ≤ last + 1 then join ((first, max last end_) :: rest)
    else (first, last) :: join ((next, end_) :: rest)
  | ranges => ranges
termination_by ranges => ranges.length

/-- The set of all code points in some ranges. -/
def ofRanges (ranges : List (Nat × Nat)) : CharSet :=
  ⟨join (ranges.mergeSort fun a b => a.1 ≤ b.1)⟩

def empty : CharSet := ⟨[]⟩

def all : CharSet := ⟨[(0, 0x10FFFF)]⟩

def single (c : Char) : CharSet := ⟨[(c.toNat, c.toNat)]⟩

def digit : CharSet := ⟨Text.digitRanges⟩

def word : CharSet := ⟨Text.wordRanges⟩

def space : CharSet := ⟨Text.blankRanges⟩

def hexDigit : CharSet := ⟨[(0x30, 0x39), (0x41, 0x46), (0x61, 0x66)]⟩

/-- The classes with a name between `[:` and `:]`. -/
def named? : String → Option CharSet
  | "alnum" => some ⟨[(0x30, 0x39), (0x41, 0x5A), (0x61, 0x7A)]⟩
  | "alpha" => some ⟨[(0x41, 0x5A), (0x61, 0x7A)]⟩
  | "ascii" => some ⟨[(0x00, 0x7F)]⟩
  | "blank" => some ⟨[(0x09, 0x09), (0x20, 0x20)]⟩
  | "cntrl" => some ⟨[(0x00, 0x1F), (0x7F, 0x7F)]⟩
  | "digit" => some ⟨[(0x30, 0x39)]⟩
  | "graph" => some ⟨[(0x21, 0x7E)]⟩
  | "lower" => some ⟨[(0x61, 0x7A)]⟩
  | "print" => some ⟨[(0x20, 0x7E)]⟩
  | "punct" => some ⟨[(0x21, 0x2F), (0x3A, 0x40), (0x5B, 0x60), (0x7B, 0x7E)]⟩
  | "space" => some ⟨[(0x09, 0x0D), (0x20, 0x20)]⟩
  | "upper" => some ⟨[(0x41, 0x5A)]⟩
  | "word" => some ⟨[(0x30, 0x39), (0x41, 0x5A), (0x5F, 0x5F), (0x61, 0x7A)]⟩
  | "xdigit" => some hexDigit
  | _ => none

def contains (set : CharSet) (code : Nat) : Bool := Text.inRanges set.ranges code

def union (a b : CharSet) : CharSet := ofRanges (a.ranges ++ b.ranges)

/-- What lies between ascending ranges, from a code point on. -/
def gaps (start : Nat) : List (Nat × Nat) → List (Nat × Nat)
  | [] => if start ≤ 0x10FFFF then [(start, 0x10FFFF)] else []
  | (first, last) :: rest =>
    (if start < first then [(start, first - 1)] else []) ++ gaps (last + 1) rest

def complement (set : CharSet) : CharSet := ⟨gaps 0 set.ranges⟩

def intersection (a b : CharSet) : CharSet := (a.complement.union b.complement).complement

def difference (a b : CharSet) : CharSet := a.intersection b.complement

def symmetricDifference (a b : CharSet) : CharSet := (a.difference b).union (b.difference a)

/-- The set with all characters that differ from its members only in case. -/
def closeUnderCase (set : CharSet) : CharSet :=
  let pairs := Text.foldRanges.flatMap Text.FoldRange.pairs
  let touched := ofRanges ((pairs.filter fun (code, folded) =>
    set.contains code || set.contains folded).map fun (_, folded) => (folded, folded))
  let variants := (pairs.filter fun (_, folded) => touched.contains folded).flatMap
    fun (code, folded) => [(code, code), (folded, folded)]
  ofRanges (set.ranges ++ variants)

/-- The set itself, or with `fold` closed under case. -/
def foldedIf (fold : Bool) (set : CharSet) : CharSet := if fold then set.closeUnderCase else set

/-- The only member. -/
def single? (set : CharSet) : Option Nat :=
  match set.ranges with
  | [(first, last)] => if first = last then some first else none
  | _ => none

def isAscii (set : CharSet) : Bool := set.ranges.all fun range => range.2 < 0x80

end CharSet

end ScopeCascade.Pattern
