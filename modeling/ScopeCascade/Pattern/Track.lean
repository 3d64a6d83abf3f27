import ScopeCascade.Pattern.Node

/-! A plain expression on one line. Of every character and condition it keeps the places where they
hold, as the set bits of a number; what matches from a place is found without going back. -/
namespace ScopeCascade.Pattern

/-- A set of places in a line: place `n` is in it if bit `n` is set. -/
abbrev Places := Nat

namespace Places

def upTo (last : Nat) (holds : Nat → Bool) : Places :=
  (List.range (last + 1)).foldl (fun places n => if holds n then places ||| 1 <<< n else places) 0

def contains (places : Places) (n : Nat) : Bool := places.testBit n

end Places

def Assertion.holds (text : Array Char) (position : Nat) : Assertion → Bool :=
  let wordBefore := position ≠ 0 && text[position - 1]?.any Text.isWordChar
  let wordAfter := text[position]?.any Text.isWordChar
  fun
    | .textStart => position = 0
    | .textEnd => position = text.size
    | .lastLines => (text.toList.drop position).all (· = '\n')
    | .lineStart => position = 0 || text[position - 1]? = some '\n'
    | .lineEnd => position = text.size || text[position]? = some '\n'
    | .wordBoundary => wordBefore != wordAfter
    | .noWordBoundary => wordBefore == wordAfter
    | .wordStart => !wordBefore && wordAfter
    | .wordEnd => wordBefore && !wordAfter
    | .wordStartHalf => !wordBefore
    | .wordEndHalf => !wordAfter

inductive Track
  /-- One character, from one of the places. -/
  | step (places : Places)
  /-- Nothing, at one of the places. -/
  | check (places : Places)
  | seq (tracks : List Track)
  | alt (tracks : List Track)
  | iterate (body : Track) (least : Nat) (most : Option Nat) (greedy : Bool)

namespace Track

mutual

/-- A plain expression on a line. What is not plain holds nowhere. -/
def ofNode (text : Array Char) : Node → Track
  | .char set =>
    step (.upTo text.size fun n => text[n]?.any fun c => set.contains c.toNat)
  | .assertion condition => check (.upTo text.size fun n => condition.holds text n)
  | .seq nodes => seq (ofNodes text nodes)
  | .alt nodes => alt (ofNodes text nodes)
  | .group _ body => ofNode text body
  | .iterate body least most greedy => iterate (ofNode text body) least most greedy
  | .atomic _ | .look _ _ _ | .reference _ _ _ => check 0

def ofNodes (text : Array Char) : List Node → List Track
  | [] => []
  | node :: rest => ofNode text node :: ofNodes text rest

end

/-- Applies a step so many times. -/
def again {α : Type} (step : α → α) : Nat → α → α
  | 0, a => a
  | count + 1, a => again step count (step a)

/-- Adds what a step reaches until nothing new is found, at most so many times. -/
def spread (step : Places → Places) : Nat → Places → Places → Places
  | 0, found, _ => found
  | fuel + 1, found, newest =>
    let reached := step newest
    let newest := reached ^^^ (reached &&& found)
    if newest = 0 then found else spread step fuel (found ||| newest) newest

mutual

/-- The places where the track ends if it starts at one of the given places. In a line of `size`
characters one of `size + 1` repetitions is empty, and that one may be repeated at will. -/
def reach (size : Nat) : Track → Places → Places
  | step places, starts => (starts &&& places) <<< 1
  | check places, starts => starts &&& places
  | seq tracks, starts => reachAll size tracks starts
  | alt tracks, starts => reachAny size tracks starts
  | iterate body least most _, starts =>
    let required := again (reach size body) (min least (size + 1)) starts
    let further := match most with
      | some most => min (most - least) (size + 1)
      | none => size + 1
    spread (reach size body) further required required

def reachAll (size : Nat) : List Track → Places → Places
  | [], starts => starts
  | track :: rest, starts => reachAll size rest (reach size track starts)

def reachAny (size : Nat) : List Track → Places → Places
  | [], _ => 0
  | track :: rest, starts => reach size track starts ||| reachAny size rest starts

end

/-- The places where a match ends that starts at each place, the preferred one first. -/
abbrev Ends := Array (List Nat)

namespace Ends

/-- The list without the repetitions of what stands in it before. -/
def distinct (places : List Nat) : List Nat :=
  (places.foldl (fun (found : Places × List Nat) n =>
    if found.1.testBit n then found else (found.1 ||| 1 <<< n, n :: found.2)) (0, [])).2.reverse

def ofPlaces (size : Nat) (ends : Nat → List Nat) : Ends :=
  Array.ofFn fun n : Fin (size + 1) => ends n

def startedAt (ends : Ends) (n : Nat) : List Nat := ends[n]?.getD []

def followedBy (size : Nat) (first second : Ends) : Ends :=
  ofPlaces size fun n => distinct ((startedAt first n).flatMap (startedAt second))

/-- The body once more, then `rest`, or else nothing; an empty repetition is the last one. -/
def optional (greedy : Bool) (body rest : Ends) (n : Nat) : List Nat :=
  let more := (startedAt body n).flatMap fun next => if next = n then [n] else startedAt rest next
  distinct (if greedy then more ++ [n] else n :: more)

/-- The body as often as it makes progress; the last so many places are filled in, the last one
first. -/
def closure (size : Nat) (greedy : Bool) (body : Ends) : Nat → Ends
  | 0 => ofPlaces size fun _ => []
  | count + 1 =>
    let later := closure size greedy body count
    let n := size - count
    later.setIfInBounds n (optional greedy body later n)

end Ends

mutual

def ends (size : Nat) : Track → Ends
  | step places => .ofPlaces size fun n => if places.contains n then [n + 1] else []
  | check places => .ofPlaces size fun n => if places.contains n then [n] else []
  | seq tracks => endsAll size tracks
  | alt tracks => endsAny size tracks
  | iterate body least most greedy =>
    let each := ends size body
    let required := again (Ends.followedBy size · each) (min least (size + 1))
      (.ofPlaces size fun n => [n])
    let further := match most with
      | none => Ends.closure size greedy each (size + 1)
      | some most =>
        let once (rest : Ends) : Ends := .ofPlaces size (Ends.optional greedy each rest)
        again once (min (most - least) size) (.ofPlaces size fun n => [n])
    required.followedBy size further

def endsAll (size : Nat) : List Track → Ends
  | [] => .ofPlaces size fun n => [n]
  | track :: rest => (ends size track).followedBy size (endsAll size rest)

def endsAny (size : Nat) : List Track → Ends
  | [] => .ofPlaces size fun _ => []
  | track :: rest =>
    let first := ends size track
    let others := endsAny size rest
    .ofPlaces size fun n => Ends.distinct (first.startedAt n ++ others.startedAt n)

end

end Track

end ScopeCascade.Pattern
