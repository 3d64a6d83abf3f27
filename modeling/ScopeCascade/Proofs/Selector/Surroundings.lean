import ScopeCascade.Proofs.Selector.Diagnosis

/-! White space around a selector. It moves all tokens by one distance and nothing else, so the
parser does with them what it does without it, at the same distance. -/
namespace ScopeCascade.Selector

theorem Token.ofChars_surrounded {before after : List Char} (blankBefore : Text.allBlank before)
    (text : List Char) (blankAfter : Text.allBlank after) :
    ofChars (before ++ text ++ after) = (ofChars text).map (shift (Text.byteLength before)) := by
  have ends : ∀ c, after.head? = some c → ¬ isRunChar c := by
    intro c first inside
    have blank := (Text.allBlank_iff after).mp blankAfter c (List.mem_of_head? first)
    rw [not_isBlank_of_isRunChar inside] at blank
    contradiction
  rw [List.append_assoc, ofChars_blank_append blankBefore, ofChars_append text ends,
    ofChars_of_allBlank blankAfter, List.map_nil, List.append_nil]

namespace Parser

/-- The state, with so much text more before all that has been read. -/
def State.shift (distance : Nat) (state : State) : State :=
  { state with enclosing := state.enclosing.map fun opened => (distance + opened.1, opened.2) }

/-- The fault, with so much text more before it. -/
def Fault.shift (distance : Nat) (fault : Fault) : Fault := (fault.1, distance + fault.2)

theorem Level.missing_shift (distance : Nat) (level : Level) (otherwise : Fault) (position : Nat) :
    level.missing (otherwise.shift distance) (distance + position) =
      Fault.shift distance (level.missing otherwise position) := by
  cases after : level.operator with
  | none => rw [Level.missing_none after, Level.missing_none after]
  | some operator =>
    rw [Level.missing_some after, Level.missing_some after]
    rfl

theorem atomFault_shift (distance : Nat) (chars : List Char) (position : Nat)
    (next : Option Token) :
    atomFault chars (distance + position) (next.map (Token.shift distance)) =
      Fault.shift distance (atomFault chars position next) := by
  cases next with
  | none => rfl
  | some token =>
    obtain ⟨kind, place⟩ := token
    cases kind with
    | stray c =>
      have adjacent : distance + place ≠ distance + position + Text.byteLength chars ↔
          place ≠ position + Text.byteLength chars := by
        omega
      simp only [atomFault, Option.map_some, Token.shift, adjacent]
      split <;> rfl
    | _ => rfl

/-- The parser asks nothing of positions but how far they are apart. -/
theorem step_shift (distance : Nat) (next : Option Token) (state : State) (token : Token) :
    step (next.map (Token.shift distance)) (state.shift distance) (token.shift distance) =
      ((step next state token).map (State.shift distance)).mapError (Fault.shift distance) := by
  obtain ⟨level, enclosing⟩ := state
  obtain ⟨kind, position⟩ := token
  cases kind with
  | atom chars =>
    simp only [step, State.shift, Token.shift, atomFault_shift]
    cases Scope.ofPieces? (chars.splitOn '.') <;> rfl
  | opening => rfl
  | closing =>
    cases ends : level.exclusion? with
    | some last => cases enclosing <;> simp only [step, State.shift, Token.shift, ends] <;> rfl
    | none =>
      cases enclosing with
      | nil =>
        simp only [step, State.shift, Token.shift, ends, List.map_nil]
        exact congrArg Except.error
          (Level.missing_shift distance level (.unmatchedParen, position) position)
      | cons opened enclosing =>
        simp only [step, State.shift, Token.shift, ends, List.map_cons]
        exact congrArg Except.error
          (Level.missing_shift distance level (.emptyGroup, opened.1) position)
  | comma =>
    cases ends : level.exclusion? <;> simp only [step, State.shift, Token.shift, ends] <;> rfl
  | bar =>
    cases ends : level.exclusion? <;> cases enclosing <;>
      simp only [step, State.shift, Token.shift, ends] <;> rfl
  | minus =>
    cases ends : level.exclusion? <;> simp only [step, State.shift, Token.shift, ends] <;> rfl
  | stray c =>
    cases filled : level.terms.isEmpty with
    | false =>
      simp only [step, State.shift, Token.shift, filled, Bool.false_eq_true, if_false]
      rfl
    | true =>
      simp only [step, State.shift, Token.shift, filled, if_true]
      exact congrArg Except.error
        (Level.missing_shift distance level (.unexpectedChar c, position) position)

theorem finish_shift (distance stop : Nat) (state : State) :
    finish (distance + stop) (state.shift distance) =
      (finish stop state).mapError (Fault.shift distance) := by
  obtain ⟨level, enclosing⟩ := state
  cases ends : level.exclusion? with
  | some last => cases enclosing <;> simp only [finish, State.shift, ends] <;> rfl
  | none =>
    simp only [finish, State.shift, ends]
    exact congrArg Except.error (Level.missing_shift distance level (.emptySelector, stop) stop)

theorem run_shift (distance stop : Nat) (state : State) (tokens : List Token) :
    run (distance + stop) (state.shift distance) (tokens.map (Token.shift distance)) =
      (run stop state tokens).mapError (Fault.shift distance) := by
  induction tokens generalizing state with
  | nil => exact finish_shift distance stop state
  | cons token rest ih =>
    rw [List.map_cons, run_cons, run_cons, List.head?_map, step_shift]
    cases step rest.head? state token with
    | error fault => rfl
    | ok after => exact ih after

end Parser

namespace Expr

variable {before after : List Char} (text : List Char)

theorem run_surrounded (blankBefore : Text.allBlank before) (blankAfter : Text.allBlank after) :
    Parser.run (Text.byteLength (before ++ text ++ after)) {}
        (Token.ofChars (before ++ text ++ after)) =
      (Parser.run (Text.byteLength (text ++ after)) {} (Token.ofChars text)).mapError
        (Parser.Fault.shift (Text.byteLength before)) := by
  rw [Token.ofChars_surrounded blankBefore text blankAfter, List.append_assoc,
    Text.byteLength_append before]
  exact Parser.run_shift (Text.byteLength before) _ {} (Token.ofChars text)

theorem ofChars_surrounded_eq_ok_iff (blankBefore : Text.allBlank before)
    (blankAfter : Text.allBlank after) (expr : Expr) :
    ofChars (before ++ text ++ after) = .ok expr ↔ ofChars text = .ok expr := by
  rw [ofChars_eq_ok_iff_run, ofChars_eq_ok_iff_run, run_surrounded text blankBefore blankAfter]
  cases Parser.ends_run text with
  | accepted accepts =>
    rw [accepts, accepts]
    exact Iff.rfl
  | within fails | atEnd fails =>
    rw [fails, fails]
    exact iff_of_false (by rintro ⟨⟩) (by rintro ⟨⟩)

/-- White space around a text changes at most the position of the error. -/
theorem ofChars_surrounded_eq_error (blankBefore : Text.allBlank before)
    (blankAfter : Text.allBlank after) {error : ParseError}
    (rejected : ofChars text = .error error) :
    ∃ position, ofChars (before ++ text ++ after) = .error { error with position } ∧
      (position = Text.byteLength before + error.position ∨
        error.position = Text.byteLength text ∧
          position = Text.byteLength (before ++ text ++ after)) := by
  have surrounded := run_surrounded text blankBefore blankAfter
  obtain ⟨fault, failed, rfl⟩ := (ofChars_eq_error_iff_run text error).mp rejected
  cases Parser.ends_run text with
  | accepted accepts =>
    rw [accepts] at failed
    contradiction
  | within fails points =>
    cases failed.symm.trans (fails _)
    obtain ⟨earlier, c, rest, written, place, _, _⟩ := points
    have same := ParseError.excerpt_surrounded blankBefore earlier (c :: rest) blankAfter
    rw [← written, Text.byteLength_append, place] at same
    refine ⟨Text.byteLength before + fault.2, ?_, .inl rfl⟩
    refine (ofChars_eq_error_iff_run _ _).mpr ⟨fault.shift (Text.byteLength before), ?_, ?_⟩
    · rw [surrounded, fails]
      rfl
    · rw [Parser.Fault.shift, ParseError.ofKind, ParseError.ofKind, same]
  | @atEnd kind fails =>
    cases failed.symm.trans (fails _)
    have same := ParseError.excerpt_end_surrounded blankBefore text blankAfter
    let stop := Text.byteLength (before ++ text ++ after)
    have length : Text.byteLength before + Text.byteLength (text ++ after) = stop := by
      rw [← Text.byteLength_append, ← List.append_assoc]
    refine ⟨stop, (ofChars_eq_error_iff_run _ _).mpr ⟨(kind, stop), ?_, ?_⟩, .inr ⟨rfl, rfl⟩⟩
    · rw [surrounded, fails, ← length]
      rfl
    · rw [ParseError.ofKind, ParseError.ofKind, same]

end Expr

/-- White space around a text changes nothing of what the text parses to, and of an error at most
the position. So a selector's own text, which is the text that was parsed without white space around
it, parses to that selector. -/
theorem parse_surrounded (before text after : String) (blankBefore : Text.allBlank before.toList)
    (blankAfter : Text.allBlank after.toList) :
    (∀ selector, parse (before ++ text ++ after) = .ok selector ↔ parse text = .ok selector) ∧
      (∀ error, parse text = .error error → ∃ position,
        parse (before ++ text ++ after) = .error { error with position } ∧
          (position = Text.byteLength before.toList + error.position ∨
            error.position = Text.byteLength text.toList ∧
              position = Text.byteLength (before ++ text ++ after).toList)) ∧
      ∀ selector, parse text = .ok selector → parse selector.text = .ok selector := by
  refine ⟨fun selector => ?_, fun error rejected => ?_, fun selector accepted => ?_⟩
  · rw [parse_eq_ok_iff, parse_eq_ok_iff, String.toList_append, String.toList_append,
      Expr.ofChars_surrounded_eq_ok_iff text.toList blankBefore blankAfter,
      Text.trim_surrounded blankBefore text.toList blankAfter]
  · obtain ⟨position, failed, place⟩ :=
      Expr.ofChars_surrounded_eq_error text.toList blankBefore blankAfter
        ((parse_eq_error_iff _ _).mp rejected)
    rw [← String.toList_append, ← String.toList_append] at failed place
    exact ⟨position, (parse_eq_error_iff _ _).mpr failed, place⟩
  · obtain ⟨expr, source⟩ := (parse_eq_ok_iff _ _).mp accepted
    obtain ⟨blanks, others, blank, blankOthers, written⟩ :=
      Text.exists_surrounding_trim text.toList
    rw [← written, Expr.ofChars_surrounded_eq_ok_iff _ blank blankOthers] at expr
    rw [parse_eq_ok_iff, Selector.text, String.toList_ofList, source]
    refine ⟨expr, ?_⟩
    rw [← Text.trim_surrounded blank (Text.trim text.toList) blankOthers, written]

theorem parse_between_wide_spaces :
    let letter : Expr := .atom ⟨[⟨['a'], by decide⟩], nofun⟩
    let selector : Selector := ⟨"a, a".toList, .union [letter, letter]⟩
    Text.allBlank "\u3000".toList ∧ Text.allBlank "\u2003\t".toList ∧
      parse ("\u3000" ++ "a, a" ++ "\u2003\t") = .ok selector ∧
      parse selector.text = .ok selector ∧
      ∃ position,
        parse ("\u3000" ++ "a -" ++ "\u2003\t") =
            .error ⟨.danglingOperator '-', position, ['-']⟩ ∧
          (position = 6 ∨ position = 10) := by
  intro letter selector
  have blankBefore : Text.allBlank "\u3000".toList := by decide
  have blankAfter : Text.allBlank "\u2003\t".toList := by decide
  obtain ⟨accepted, _, own⟩ := parse_surrounded _ "a, a" _ blankBefore blankAfter
  have parsed : parse "a, a" = .ok selector := rfl
  obtain ⟨_, rejected, _⟩ := parse_surrounded _ "a -" _ blankBefore blankAfter
  have alone : parse "a -" = .error ⟨.danglingOperator '-', 3, ['-']⟩ := rfl
  obtain ⟨position, failed, place⟩ := rejected _ alone
  refine ⟨blankBefore, blankAfter, (accepted selector).mpr parsed, own selector parsed, position,
    failed, ?_⟩
  rcases place with place | ⟨_, place⟩
  · exact .inl place
  · exact .inr place

end ScopeCascade.Selector
