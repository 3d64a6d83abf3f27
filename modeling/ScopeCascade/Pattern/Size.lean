import ScopeCascade.Pattern.Node

/-! How much memory the automaton of a plain expression takes. It has a state for every byte that a
literal is written with, and repetitions copy the states of their bodies. An expression whose
automaton grows too large is refused. -/
namespace ScopeCascade.Pattern

/-- A range of bytes for each byte of a character. -/
abbrev ByteRanges := List (Nat × Nat)

namespace CharSet

/-- The bytes of a code point in UTF-8. -/
def utf8 (code : Nat) : List Nat :=
  let tail (shift : Nat) : Nat := 0x80 + code / shift % 0x40
  if code < 0x80 then [code]
  else if code < 0x800 then [0xC0 + code / 0x40, tail 1]
  else if code < 0x10000 then [0xE0 + code / 0x1000, tail 0x40, tail 1]
  else [0xF0 + code / 0x40000, tail 0x1000, tail 0x40, tail 1]

/-- Where a range of code points has to be cut so that its parts come closer to ranges of bytes: the
first code point of the second part. -/
def cut? (first last : Nat) : Option Nat :=
  let bounds := [0x80, 0x800, 0x10000].find? fun bound => first < bound && bound ≤ last
  let blocks := [0x40, 0x1000, 0x40000].findSome? fun block =>
    if first / block = last / block then none
    else if first % block ≠ 0 then some ((first / block + 1) * block)
    else if last % block ≠ block - 1 then some (last / block * block)
    else none
  bounds <|> (if last < 0x80 then none else blocks)

/-- The sequences of byte ranges for a range of code points, which needs few cuts. -/
def byteRanges : Nat → Nat × Nat → List ByteRanges
  | 0, _ => []
  | fuel + 1, (first, last) =>
    if last < first then []
    else if first ≤ 0xDFFF ∧ 0xD800 ≤ last then
      byteRanges fuel (first, 0xD7FF) ++ byteRanges fuel (0xE000, last)
    else
      match cut? first last with
      | some middle => byteRanges fuel (first, middle - 1) ++ byteRanges fuel (middle, last)
      | none => [(utf8 first).zip (utf8 last)]

/-- How many elements the second list does not share with the start of the first. -/
def unshared : ByteRanges → ByteRanges → Nat
  | a :: previous, b :: next => if a = b then unshared previous next else next.length + 1
  | _, next => next.length

/-- The states that sequences need if each shares the ones it starts with in common with the
sequence before it. -/
def countStates : ByteRanges → List ByteRanges → Nat
  | _, [] => 0
  | previous, next :: rest => unshared previous next + countStates next rest

end CharSet

namespace Size

/-- The greatest automaton, in bytes. -/
def limit : Nat := 0xA00000

/-- Every state takes so many bytes, without the lists of those that follow it. -/
def state : Nat := 32

/-- One character. Only the automaton that runs backwards needs all the sequences of a class; the
one that runs forwards shares their ends and takes half as much. -/
def ofSet (forwards : Bool) (set : CharSet) : Nat :=
  match set.single? with
  | some code => state * (CharSet.utf8 code).length
  | none =>
    if set.isAscii then 2 * state + 8 * set.ranges.length
    else
      let sequences := set.ranges.flatMap (CharSet.byteRanges 32)
      let bytes := state * (2 + CharSet.countStates [] sequences) + 4 * sequences.length
      if forwards then bytes / 2 else bytes

def ofCopies (count each : Nat) : Nat := if count = 0 then state else count * each

def ofRepetition (width : Width) (each least : Nat) (most : Option Nat) : Nat :=
  let (least, most) :=
    if width = ⟨0, true⟩ then (min least 1, most.map (min · 1) <|> some 1) else (least, most)
  match most with
  | none =>
    if least = 0 then if width.least = 0 then each + 3 * state + 16 else each + state + 8
    else least * each + state + 8
  | some most =>
    if most = least then ofCopies least each
    else ofCopies least each + state + (most - least) * (each + state + 8)

/-- The set of alternatives that are one character each. -/
def choiceSet? (nodes : List Node) : Option CharSet :=
  nodes.foldlM (fun set node =>
    match node with
    | .char members => some (set.union members)
    | _ => none) CharSet.empty

mutual

def ofNode (forwards : Bool) : Node → Nat
  | .char set => ofSet forwards set
  | .assertion _ => state
  | .seq [] => state
  | .seq nodes => ofNodes forwards nodes
  | .alt nodes =>
    match choiceSet? nodes with
    | some set => ofSet forwards set
    | none => 2 * state + 4 * nodes.length + ofNodes forwards nodes
  | .group _ body => (if forwards then 2 * state else 0) + ofNode forwards body
  | .iterate body least most _ => ofRepetition body.width (ofNode forwards body) least most
  | .atomic body | .look _ _ body => ofNode forwards body
  | .reference _ _ _ => 0

def ofNodes (forwards : Bool) : List Node → Nat
  | [] => 0
  | node :: rest => ofNode forwards node + ofNodes forwards rest

end

/-- Whether the automata that run in either direction are small enough. -/
def fits (node : Node) : Bool :=
  [false, true].all fun forwards => ofNode forwards node + 6 * state ≤ limit

end Size

end ScopeCascade.Pattern
