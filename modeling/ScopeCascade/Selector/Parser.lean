import ScopeCascade.Selector.Error
import ScopeCascade.Selector.Expr
import ScopeCascade.Selector.Token

/-! Selector expressions from tokens, by

    selector  = exclusion ("," exclusion)*
    exclusion = sequence ("-" sequence)*
    sequence  = (atom | group)+
    group     = "(" exclusion (("," | "|") exclusion)* ")"

One pass over the tokens keeps what has been read so far between each pair of open parentheses. -/
namespace ScopeCascade.Selector.Parser

/-- What has been read since a parenthesis was opened, or since the start. -/
structure Level where
  /-- Finished alternatives, the last one first. -/
  alternatives : List Expr := []
  /-- The left side of the `-` that the sequence being read follows. -/
  minuend : Option Expr := none
  /-- The terms of the sequence being read, the last one first. -/
  terms : List Expr := []
  /-- The operator right before the sequence being read. -/
  operator : Option Char := none

/-- The level being read, and around it, innermost first, every open parenthesis with its position
and the level it stands in. -/
structure State where
  level : Level := {}
  enclosing : List (Nat × Level) := []

abbrev Fault := ErrorKind × Nat

namespace Level

def push (level : Level) (term : Expr) : Level := { level with terms := term :: level.terms }

/-- The exclusion that ends here, unless a term is missing. -/
def exclusion? (level : Level) : Option Expr :=
  if level.terms.isEmpty then none
  else
    let sequence := Expr.ofTerms level.terms.reverse
    some (match level.minuend with
      | none => sequence
      | some minuend => .exclusion minuend sequence)

/-- All alternatives, the last one included. -/
def all (level : Level) (last : Expr) : List Expr := level.alternatives.reverse ++ [last]

/-- Starts the next alternative. -/
def alternative (level : Level) (finished : Expr) (operator : Char) : Level :=
  { alternatives := finished :: level.alternatives, operator := some operator }

/-- Starts the right side of a `-`. -/
def subtract (level : Level) (minuend : Expr) : Level :=
  { alternatives := level.alternatives, minuend := some minuend, operator := some '-' }

/-- What a missing term is reported as: the operator before it dangles, if there is one. -/
def missing (level : Level) (otherwise : Fault) (position : Nat) : Fault :=
  match level.operator with
  | some operator => (.danglingOperator operator, position)
  | none => otherwise

end Level

/-- Why a run of characters is no atom: a segment is empty, unless a stray character stands where
its last segment should. -/
def atomFault (run : List Char) (position : Nat) (next : Option Token) : Fault :=
  match next with
  | some ⟨.stray c, place⟩ =>
    if (run.splitOn '.').dropLast.any List.isEmpty ∨ place ≠ position + Text.byteLength run then
      (.emptyAtom, position)
    else (.unexpectedChar c, place)
  | _ => (.emptyAtom, position)

/-- Reads one token; `next` is the one that follows it. -/
def step (next : Option Token) (state : State) (token : Token) : Except Fault State :=
  let level := state.level
  match token.kind with
  | .atom run =>
    match Scope.ofPieces? (run.splitOn '.') with
    | some scope => .ok { state with level := level.push (.atom scope) }
    | none => .error (atomFault run token.position next)
  | .opening => .ok { level := {}, enclosing := (token.position, level) :: state.enclosing }
  | .closing =>
    match level.exclusion?, state.enclosing with
    | some last, (_, outer) :: enclosing =>
      .ok { level := outer.push (.group (level.all last)), enclosing }
    | some _, [] => .error (.unmatchedParen, token.position)
    | none, (opened, _) :: _ => .error (level.missing (.emptyGroup, opened) token.position)
    | none, [] => .error (level.missing (.unmatchedParen, token.position) token.position)
  | .comma =>
    match level.exclusion? with
    | some finished => .ok { state with level := level.alternative finished ',' }
    | none => .error (.danglingOperator ',', token.position)
  | .bar =>
    match level.exclusion?, state.enclosing with
    | some finished, _ :: _ => .ok { state with level := level.alternative finished '|' }
    | some _, [] => .error (.alternationOutsideGroup, token.position)
    | none, _ => .error (.danglingOperator '|', token.position)
  | .minus =>
    match level.exclusion? with
    | some minuend => .ok { state with level := level.subtract minuend }
    | none => .error (.danglingOperator '-', token.position)
  | .stray c =>
    let unexpected : Fault := (.unexpectedChar c, token.position)
    if level.terms.isEmpty then .error (level.missing unexpected token.position)
    else .error unexpected

/-- The expression that has been read when the text ends at a position. -/
def finish (stop : Nat) (state : State) : Except Fault Expr :=
  match state.level.exclusion?, state.enclosing with
  | some last, [] => .ok (Expr.ofAlternatives (state.level.all last))
  | some _, (opened, _) :: _ => .error (.unclosedGroup, opened)
  | none, _ => .error (state.level.missing (.emptySelector, stop) stop)

def run (stop : Nat) : State → List Token → Except Fault Expr
  | state, [] => finish stop state
  | state, token :: rest =>
    match step rest.head? state token with
    | .ok state => run stop state rest
    | .error fault => .error fault

end Parser

/-- The expression that a text denotes. -/
def Expr.ofChars (text : List Char) : Except ParseError Expr :=
  match Parser.run (Text.byteLength text) {} (Token.ofChars text) with
  | .ok expr => .ok expr
  | .error fault => .error (.ofKind text fault.1 fault.2)

end ScopeCascade.Selector
