/-! Patterns for lines of text. What a regular expression means is up to the library that compiles
it, which is an argument of everything that reads one; nothing is assumed of it. -/
namespace ScopeCascade

/-- A library of regular expressions. -/
structure Pattern.Engine where
  /-- The test of lines that a source compiles to, or what is wrong with the source. On some lines
  the test may give up. -/
  compile (source : String) : Except String (String → Option Bool)

/-- The source of a regular expression that a library has compiled. -/
structure Pattern where
  source : String
deriving DecidableEq

namespace Pattern

def ofSource (engine : Engine) (source : String) : Except String Pattern :=
  (engine.compile source).map fun _ => ⟨source⟩

/-- Whether the pattern matches somewhere in a line; where the test gives up, it does not. -/
def isMatch (engine : Engine) (pattern : Pattern) (line : String) : Bool :=
  match engine.compile pattern.source with
  | .ok test => (test line).getD false
  | .error _ => false

/-- A pattern has its source, and matches what the compiled source finds. -/
theorem ofSource_eq_ok_iff (engine : Engine) (source : String) (pattern : Pattern) :
    ofSource engine source = .ok pattern ↔ pattern.source = source ∧
      ∃ test, engine.compile source = .ok test ∧
        ∀ line, pattern.isMatch engine line = (test line).getD false := by
  unfold ofSource isMatch
  constructor
  · intro read
    cases compiled : engine.compile source with
    | error error =>
      rw [compiled] at read
      contradiction
    | ok test =>
      rw [compiled] at read
      cases read
      exact ⟨rfl, test, rfl, fun line => by rw [compiled]⟩
  · rintro ⟨rfl, test, compiled, _⟩
    rw [compiled]
    rfl

end Pattern

end ScopeCascade
