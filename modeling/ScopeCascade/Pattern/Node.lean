import ScopeCascade.Pattern.CharSet

/-! Regular expressions. -/
namespace ScopeCascade.Pattern

/-- Conditions on a place in a line. -/
inductive Assertion
  | textStart | textEnd
  /-- Nothing but line feeds follows. -/
  | lastLines
  | lineStart | lineEnd
  | wordBoundary | noWordBoundary | wordStart | wordEnd
  /-- No word character stands before the place, or none behind it. -/
  | wordStartHalf | wordEndHalf
deriving DecidableEq

/-- How many characters an expression matches: at least so many and, if `exact`, no more. -/
structure Width where
  least : Nat
  exact : Bool
deriving DecidableEq, Inhabited

inductive Node
  /-- One character of a set. -/
  | char (set : CharSet)
  | assertion (condition : Assertion)
  | seq (nodes : List Node)
  | alt (nodes : List Node)
  /-- The part of the text that the body matches is kept under a number. -/
  | group (index : Nat) (body : Node)
  /-- The body so many times in a row; a greedy repetition prefers more of them. -/
  | iterate (body : Node) (least : Nat) (most : Option Nat) (greedy : Bool)
  /-- The first way in which the body matches, and no other. -/
  | atomic (body : Node)
  /-- Whether the body matches, or does not, from here on or up to here. -/
  | look (behind negative : Bool) (body : Node)
  /-- The text kept under a number; `width` is that of the group if it stands before. -/
  | reference (group : Nat) (fold : Bool) (width : Width)

namespace Node

/-- The expression that matches the empty text. -/
def empty : Node := seq []

/-- One node after another; a single one is itself. -/
def inRow : List Node → Node
  | [node] => node
  | nodes => seq nodes

/-- Whether the node may be repeated. -/
def isRepeatable : Node → Bool
  | seq [] | look _ _ _ => false
  | _ => true

mutual

def width : Node → Width
  | char _ => ⟨1, true⟩
  | assertion _ | look _ _ _ => ⟨0, true⟩
  | seq nodes => rowWidth nodes
  | alt nodes => choiceWidth nodes
  | group _ body | atomic body => width body
  | iterate body least most _ =>
    let each := width body
    ⟨least * each.least, each.exact && most = some least⟩
  | reference _ _ width => width

def rowWidth : List Node → Width
  | [] => ⟨0, true⟩
  | node :: rest =>
    let first := width node
    let others := rowWidth rest
    ⟨first.least + others.least, first.exact && others.exact⟩

def choiceWidth : List Node → Width
  | [] => ⟨0, true⟩
  | [node] => width node
  | node :: rest =>
    let first := width node
    let others := choiceWidth rest
    ⟨min first.least others.least, first.exact && others.exact && first.least = others.least⟩

end

mutual

/-- Whether the expression can be followed without going back: it has no look around, no atomic
part, no word boundary, and no group of those that are referred to. -/
def isPlain (referred : List Nat) : Node → Bool
  | char _ => true
  | assertion condition =>
    match condition with
    | .textStart | .textEnd | .lineStart | .lineEnd => true
    | _ => false
  | seq nodes | alt nodes => arePlain referred nodes
  | group index body => !referred.contains index && isPlain referred body
  | iterate body _ _ _ => isPlain referred body
  | atomic _ | look _ _ _ | reference _ _ _ => false

def arePlain (referred : List Nat) : List Node → Bool
  | [] => true
  | node :: rest => isPlain referred node && arePlain referred rest

end

end Node

end ScopeCascade.Pattern
