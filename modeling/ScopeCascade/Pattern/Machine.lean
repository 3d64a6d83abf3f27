import ScopeCascade.Pattern.Program
import ScopeCascade.Pattern.Track
import ScopeCascade.Text.Bytes

/-! Running programs on a line. -/
namespace ScopeCascade.Pattern

/-- The characters of a line. -/
abbrev Line := Array Char

/-- Where a part ends if it is started at each place. -/
abbrev PartEnds := Array (Option Nat)

def Part.onLine (line : Line) (part : Part) : PartEnds :=
  let track := Track.ofNode line part.node
  if part.behind then
    let ends := track.reach line.size (.upTo line.size fun _ => true)
    Array.ofFn fun n : Fin (line.size + 1) => if ends.contains n then some n.val else none
  else (track.ends line.size).map List.head?

namespace Line

/-- Whether the second text counts as the first one in another case: letters of ASCII one by one, or
else the first text somewhere within the second. -/
def agree (text found : List Char) : Bool :=
  let fold (c : Char) : Nat := Text.foldCase c.toNat
  if found.all fun c => c.toNat < 0x80 then text.map Char.toLower = found.map Char.toLower
  else (List.range (found.length + 1)).any fun n =>
    (text.map fold).isPrefixOf ((found.drop n).map fold)

/-- Where the text between two places ends if it stands at the position once more. -/
def repeated (line : Line) (fold : Bool) (start stop position : Nat) : Option Nat := do
  if stop < start then none
  let text := line.extract start stop
  if text = line.extract position (position + text.size) then return position + text.size
  if !fold then none
  let rest := (line.extract position line.size).toList
  let (found, _) ← Text.cut? (Text.byteLength text.toList) rest
  if agree text.toList found then return position + found.length else none

end Line

/-- A state of a run. -/
structure Thread where
  address : Nat := 0
  position : Nat := 0
  registers : List (Register × Nat) := []

namespace Thread

def get? (thread : Thread) (register : Register) : Option Nat := thread.registers.lookup register

/-- The thread with a value in a register. -/
def set (thread : Thread) (register : Register) (value : Nat) : Thread :=
  { thread with
    registers := (register, value) :: thread.registers.filter fun entry => entry.1 ≠ register }

def go (thread : Thread) (address : Nat) : Thread := { thread with address }

def next (thread : Thread) : Thread := thread.go (thread.address + 1)

/-- The next instruction at another position. -/
def move (thread : Thread) (position : Nat) : Thread := { thread.next with position }

end Thread

/-- The choices that are open, the last one at the end. -/
abbrev Choices := Array Thread

/-- What an instruction does: the thread goes on, or there is none any more. -/
abbrev Step := Option Thread × Choices

namespace Instruction

/-- Continues with the first of two threads, and keeps the other. -/
def choose (first second : Thread) (choices : Choices) : Step := (some first, choices.push second)

/-- One more repetition, or the exit. -/
def loopStep (least : Nat) (most : Option Nat) (greedy : Bool) (counter : Register)
    (place : Option Register) (exit : Nat) (thread : Thread) (choices : Choices) : Step :=
  let count := (thread.get? counter).getD 0
  let stays := least < count && place.any fun place => thread.get? place = some thread.position
  if most = some count then (some (thread.go exit), choices)
  else if stays then (none, choices)
  else
    let thread := thread.set counter (count + 1)
    if count < least then (some thread.next, choices)
    else
      let thread := match place with
        | some place => thread.set place thread.position
        | none => thread
      if greedy then choose thread.next (thread.go exit) choices
      else choose (thread.go exit) thread.next choices

def step (line : Line) (thread : Thread) (choices : Choices) : Instruction PartEnds → Step
  | follow ends => ((ends[thread.position]?.join).map thread.move, choices)
  | any =>
    if thread.position < line.size then (some (thread.move (thread.position + 1)), choices)
    else (none, choices)
  | check condition =>
    (if condition.holds line thread.position then some thread.next else none, choices)
  | jump target => (some (thread.go target), choices)
  | split first second => choose (thread.go first) (thread.go second) choices
  | save register => (some (thread.set register thread.position).next, choices)
  | restore register => ((thread.get? register).map thread.move, choices)
  | goBack count =>
    if count ≤ thread.position then (some (thread.move (thread.position - count)), choices)
    else (none, choices)
  | reference group fold =>
    let stop := do
      line.repeated fold (← thread.get? (.start group)) (← thread.get? (.stop group))
        thread.position
    (stop.map thread.move, choices)
  | reset counter => (some (thread.set counter 0).next, choices)
  | loop least most greedy counter place exit =>
    loopStep least most greedy counter place exit thread choices
  | mark register => (some (thread.set register choices.size).next, choices)
  | cut register =>
    (some thread.next, choices.shrink ((thread.get? register).getD choices.size))
  | fail => (none, choices)

end Instruction

namespace Machine

/-- How often a run may come back to a choice, and how many may be open. -/
def limit : Nat := 1000000

/-- Steps of a run that comes back as often as it may, each time after far more steps than lines and
programs have characters. -/
def steps : Nat := 0x10000000000000

/-- Whether a thread gets past the last instruction. -/
def run (code : Array (Instruction PartEnds)) (line : Line) :
    Nat → Nat → Thread → Choices → Bool
  | 0, _, _, _ => false
  | fuel + 1, left, thread, choices =>
    match code[thread.address]? with
    | none => true
    | some instruction =>
      match instruction.step line thread choices with
      | (some thread, choices) =>
        if choices.size ≤ limit then run code line fuel left thread choices else false
      | (none, choices) =>
        match left, choices.back? with
        | left + 1, some thread => run code line fuel left thread choices.pop
        | _, _ => false

end Machine

/-- Whether the program finds a match somewhere in the line. -/
def Program.isMatch (line : Line) : Program → Bool
  | plain node =>
    (Track.ofNode line node).reach line.size (.upTo line.size fun _ => true) ≠ 0
  | code instructions =>
    let instructions := instructions.map fun instruction => instruction.map (Part.onLine line)
    Machine.run instructions.toArray line Machine.steps Machine.limit {} #[]

end ScopeCascade.Pattern
