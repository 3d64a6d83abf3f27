import ScopeCascade.Pattern.Size

/-! Programs for expressions that have to go back where a choice turns out wrong. Parts that are
plain are single instructions; all choices between them are instructions of their own. -/
namespace ScopeCascade.Pattern

/-- What a run keeps. -/
inductive Register
  | start (group : Nat)
  | stop (group : Nat)
  /-- What belongs to the instruction at an address. -/
  | own (address : Nat)
deriving DecidableEq

/-- A plain expression that is matched at a place, or of which some match ends there. -/
structure Part where
  node : Node
  behind : Bool

/-- Instructions over a type of parts. Those that choose name the address that is tried first, and
then the other; a choice stays open until the run comes back to it. -/
inductive Instruction (part : Type)
  | follow (part : part)
  | any
  | check (condition : Assertion)
  | jump (target : Nat)
  | split (first second : Nat)
  /-- Keeps the position. -/
  | save (register : Register)
  /-- Goes to a position that was kept. -/
  | restore (register : Register)
  | goBack (count : Nat)
  | reference (group : Nat) (fold : Bool)
  | reset (counter : Register)
  /-- Goes on with one more repetition or to the exit. With a register for the place of the last
  repetition, one that gets no further than this place is none. -/
  | loop (least : Nat) (most : Option Nat) (greedy : Bool) (counter : Register)
      (place : Option Register) (exit : Nat)
  /-- Keeps which choices are open. -/
  | mark (register : Register)
  /-- Drops the choices opened since. -/
  | cut (register : Register)
  | fail

namespace Instruction

def map {α β : Type} (f : α → β) : Instruction α → Instruction β
  | follow part => follow (f part)
  | any => any
  | check condition => check condition
  | jump target => jump target
  | split first second => split first second
  | save register => save register
  | restore register => restore register
  | goBack count => goBack count
  | reference group fold => reference group fold
  | reset counter => reset counter
  | loop least most greedy counter place exit => loop least most greedy counter place exit
  | mark register => mark register
  | cut register => cut register
  | fail => fail

end Instruction

abbrev Code := List (Instruction Part)

namespace Code

/-- One part. -/
def part? (node : Node) (behind : Bool) : Option Code :=
  if Size.fits node then some [.follow ⟨node, behind⟩] else none

/-- Plain nodes in a row. -/
def row? : List Node → Option Code
  | [] => some []
  | nodes => part? (.inRow nodes) false

/-- Whether a condition holds, given the code for it, without moving from the place. -/
def look (negative : Bool) (address : Nat) (inner : Nat → Option Code) : Option Code := do
  let own := Register.own address
  if negative then
    let body ← inner (address + 2)
    let start := [.mark own, .split (address + 2) (address + body.length + 4)]
    return start ++ body ++ [.cut own, .fail]
  else return .save own :: (← inner (address + 1)) ++ [.restore own]

/-- The repetition of a body, given the code for it. -/
def iterate (width : Width) (least : Nat) (most : Option Nat) (greedy : Bool) (address : Nat)
    (inner : Nat → Option Code) : Option Code := do
  let choose (first second : Nat) : Instruction Part :=
    if greedy then .split first second else .split second first
  let counted (place : Option Register) : Option Code := do
    let body ← inner (address + 2)
    let counter := Register.own address
    let exit := address + body.length + 3
    return [.reset counter, .loop least most greedy counter place exit] ++ body ++
      [.jump (address + 1)]
  match least, most with
  | 0, some 1 =>
    let body ← inner (address + 1)
    return choose (address + 1) (address + body.length + 1) :: body
  | _, some _ => counted none
  | least, none =>
    if width.least = 0 then counted (some (.own (address + 1)))
    else
      match least with
      | 0 =>
        let body ← inner (address + 1)
        return choose (address + 1) (address + body.length + 2) :: body ++ [.jump address]
      | 1 =>
        let body ← inner address
        return body ++ [choose address (address + body.length + 1)]
      | _ => counted none

/-- A match of a node that ends at the place, given the code for the node. -/
def behind (referred : List Nat) (node : Node) (address : Nat) (inner : Nat → Option Code) :
    Option Code := do
  if node.width.exact then return .goBack node.width.least :: (← inner (address + 1))
  else if node.isPlain referred then part? node true
  else none

section

variable (referred : List Nat)

mutual

/-- The code for a node, whose first instruction has the given address. The whole of a node that is
plain is one part, unless with `choosing` something behind it may need another of its matches. -/
def ofNode (choosing : Bool) (address : Nat) : Node → Option Code
  | .char set => part? (.char set) false
  | .assertion condition => some [.check condition]
  | .seq nodes =>
    if !choosing ∧ Node.arePlain referred nodes then part? (.seq nodes) false
    else do
      let fixed (node : Node) : Bool := node.width.exact && node.isPlain referred
      let before := nodes.takeWhile fixed
      let after := (nodes.drop before.length).reverse.takeWhile fun node =>
        if choosing then fixed node else node.isPlain referred
      let first ← row? before
      let middle ← ofMiddle before.length (nodes.length - before.length - after.length)
        (address + first.length) nodes
      return first ++ middle ++ (← row? after.reverse)
  | .alt nodes =>
    if !choosing ∧ Node.arePlain referred nodes then part? (.alt nodes) false
    else ofChoice choosing address nodes
  | .group index body =>
    if !choosing ∧ (Node.group index body).isPlain referred then part? (.group index body) false
    else do
      let inner ← ofNode choosing (address + 1) body
      return .save (.start index) :: inner ++ [.save (.stop index)]
  | .iterate body least most greedy =>
    if !choosing ∧ body.isPlain referred then part? (.iterate body least most greedy) false
    else
      let choosing := choosing || !(body.isPlain referred) && !(least = 0 && most = some 1)
      iterate body.width least most greedy address fun address => ofNode choosing address body
  | .atomic body => do
    let inner ← ofNode false (address + 1) body
    return .mark (.own address) :: inner ++ [.cut (.own address)]
  | .look false negative body => look negative address fun address => ofNode false address body
  | .look true negative (.alt nodes) =>
    if (Node.choiceWidth nodes).exact then
      look negative address fun address =>
        behind referred (.alt nodes) address fun address => ofNode false address (.alt nodes)
    else if negative then ofRefusals address nodes
    else ofLooks address nodes
  | .look true negative body =>
    look negative address fun address =>
      behind referred body address fun address => ofNode false address body
  | .reference group fold _ => some [.reference group fold]

/-- The nodes that follow so many others, up to a number of them. -/
def ofMiddle : Nat → Nat → Nat → List Node → Option Code
  | 0, count + 1, address, node :: rest => do
    let first ← ofNode true address node
    return first ++ (← ofMiddle 0 count (address + first.length) rest)
  | skipped + 1, count, address, _ :: rest => ofMiddle skipped count address rest
  | _, _, _, _ => some []

/-- Alternatives, which are tried in order. -/
def ofChoice (choosing : Bool) (address : Nat) : List Node → Option Code
  | [] => some []
  | [node] => ofNode choosing address node
  | node :: rest => do
    let first ← ofNode choosing (address + 1) node
    let next := address + first.length + 2
    let others ← ofChoice choosing next rest
    return .split (address + 1) next :: first ++ .jump (next + others.length) :: others

/-- Some node has a match that ends at the place. -/
def ofLooks (address : Nat) : List Node → Option Code
  | [] => some []
  | [node] =>
    look false address fun address =>
      behind referred node address fun address => ofNode false address node
  | node :: rest => do
    let first ← look false (address + 1) fun address =>
      behind referred node address fun address => ofNode false address node
    let next := address + first.length + 2
    let others ← ofLooks next rest
    return .split (address + 1) next :: first ++ .jump (next + others.length) :: others

/-- No node has a match that ends at the place. -/
def ofRefusals (address : Nat) : List Node → Option Code
  | [] => some []
  | node :: rest => do
    let first ← look true address fun address =>
      behind referred node address fun address => ofNode false address node
    return first ++ (← ofRefusals (address + first.length) rest)

end

end

end Code

namespace Node

/-- Whether a match can begin nowhere but at the start of the text. -/
def isAnchored : Node → Bool
  | assertion .textStart | seq (assertion .textStart :: _) => true
  | _ => false

/-- A match may as well extend over what has to follow it. -/
def extended : Node → Node
  | seq nodes =>
    match nodes.getLast? with
    | some (look false false body) => seq [group 0 (inRow nodes.dropLast), body]
    | _ => seq nodes
  | node => node

end Node

/-- An expression made ready for matching. -/
inductive Program
  | plain (node : Node)
  | code (instructions : Code)

namespace Program

/-- A search that begins with each place in turn: unless what follows matches here, one character
is passed over. -/
def search : Code := [.split 3 1, .any, .jump 0]

/-- The program for an expression, in which some groups are referred to. -/
def ofNode? (referred : List Nat) (node : Node) : Option Program := do
  let node := node.extended
  if node.isPlain referred then
    if Size.fits node then return plain node else none
  else
    let start := if node.isAnchored then [] else search
    return code (start ++ (← Code.ofNode referred false start.length node))

end Program

end ScopeCascade.Pattern
