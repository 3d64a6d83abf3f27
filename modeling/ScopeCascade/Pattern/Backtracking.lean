import ScopeCascade.Pattern.Basic
import ScopeCascade.Pattern.Machine
import ScopeCascade.Pattern.Reader

/-! A library of regular expressions that can be run: groups, classes, repetitions of all kinds,
looks ahead and behind, references back and flags. It has no classes of Unicode properties and no
conditions on groups, and takes sources with one of them for faulty. -/
namespace ScopeCascade.Pattern

/-- The program for a regular expression that is well formed and not too large. -/
def program? (source : String) : Option Program := do
  let (node, referred) ← Reading.read? source.toList
  Program.ofNode? referred node

/-- The library; a run that comes back too often finds nothing. -/
def Engine.backtracking : Engine where
  compile source :=
    match program? source with
    | some program => .ok fun line => some (program.isMatch line.toList.toArray)
    | none => .error "malformed or too large"

end ScopeCascade.Pattern
