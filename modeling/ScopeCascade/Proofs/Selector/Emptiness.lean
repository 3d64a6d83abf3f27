import ScopeCascade.Proofs.Selector.Diagnosis

/-! Which texts are reported as empty: those of white space alone, and those that stop right behind
an open parenthesis, where there is no operator for the error to name. -/
namespace ScopeCascade.Selector

/-- The text is the start of a selector and stops right behind an open parenthesis. -/
def StopsAtOpening (text : String) : Prop :=
  (∃ earlier, EndsWith text.toList earlier '(') ∧
    ∃ rest selector, parse (text ++ rest) = .ok selector

namespace Parser

/-- Neither a term nor an operator has been read since the innermost parenthesis. -/
def State.Untouched (state : State) : Prop :=
  state.level.terms = [] ∧ state.level.operator = none

theorem finish_emptySelector_iff (stop : Nat) (state : State) :
    (∃ fault, finish stop state = .error fault ∧ fault.1 = .emptySelector) ↔ state.Untouched := by
  obtain ⟨level, enclosing⟩ := state
  rw [State.Untouched, ← Level.exclusion?_eq_none_iff]
  cases ends : level.exclusion? with
  | some last => cases enclosing <;> simp [finish, ends]
  | none => cases after : level.operator <;> simp [finish, ends, Level.missing, after]

/-- As many closing parentheses as are open bring the parser back to the outermost level. -/
theorem reads_closings {enclosing : List (Nat × Level)} {level : Level} {tokens : List Token}
    (filled : level.terms ≠ [])
    (closes : tokens.map Token.kind = List.replicate enclosing.length .closing) :
    ∃ after : Level, after.terms ≠ [] ∧ Reads tokens ⟨level, enclosing⟩ ⟨after, []⟩ := by
  induction enclosing generalizing level tokens with
  | nil =>
    rw [List.map_eq_nil_iff.mp closes]
    exact ⟨level, filled, fun _ _ => rfl⟩
  | cons opened enclosing ih =>
    rw [List.length_cons, List.replicate_succ] at closes
    obtain ⟨token, more, rfl, closing, closesMore⟩ := List.map_eq_cons_iff.mp closes
    obtain ⟨last, ends⟩ := Level.exists_exclusion filled
    let outer := opened.2.push (.group (level.all last))
    have filledOuter : outer.terms ≠ [] := List.cons_ne_nil _ _
    obtain ⟨after, filledAfter, reads⟩ := ih filledOuter closesMore
    have moves : Moves token.position ⟨level, opened :: enclosing⟩ token.kind ⟨outer, enclosing⟩ :=
      closing ▸ .closing ends
    exact ⟨after, filledAfter, Reads.cons moves reads⟩

/-- An atom and closing parentheses. The blank keeps the atom apart from a run before it. -/
def completion (depth : Nat) : List Char := ' ' :: (['a'] ++ List.replicate depth ')')

theorem kinds_completion (depth : Nat) :
    Token.kinds (completion depth) = .atom ['a'] :: List.replicate depth .closing := by
  have closings : Lexes (List.replicate depth ')') (List.replicate depth .closing) := by
    induction depth with
    | zero => exact .done
    | succ depth ih => exact .sign rfl ih
  refine Token.kinds_of_lexes (.blank rfl (.atom ?_ (by decide) (by decide) ?_ closings))
  · exact List.forall_mem_singleton.mpr rfl
  · intro c first
    obtain ⟨_, rfl⟩ := List.mem_replicate.mp (List.mem_of_head? first)
    decide

/-- Whatever the parser has read, it is the start of a selector. -/
theorem exists_completion {text : List Char} {last : State}
    (reads : Reads (Token.ofChars text) {} last) :
    ∃ rest expr, Expr.ofChars (text ++ rest) = .ok expr := by
  obtain ⟨level, enclosing⟩ := last
  let rest := completion enclosing.length
  obtain ⟨atom, more, tokens, kind, closes⟩ := List.map_eq_cons_iff.mp
    ((Token.map_kind_shift (Text.byteLength text) (Token.ofChars rest)).trans (kinds_completion _))
  obtain ⟨scope, read⟩ : ∃ scope, Scope.ofPieces? (['a'].splitOn '.') = some scope := ⟨_, rfl⟩
  let begun := level.push (.atom scope)
  have moves : Moves atom.position ⟨level, enclosing⟩ atom.kind ⟨begun, enclosing⟩ :=
    kind ▸ .atom read
  have filled : begun.terms ≠ [] := List.cons_ne_nil _ _
  obtain ⟨after, filledAfter, closed⟩ := reads_closings filled closes
  obtain ⟨expr, ends⟩ := Level.exists_exclusion filledAfter
  refine ⟨rest, Expr.ofAlternatives (after.all expr), (Expr.ofChars_eq_ok_iff_run _ _).mpr ?_⟩
  rw [Token.ofChars_append text (by rintro c ⟨⟩; decide), tokens,
    (reads.append (Reads.cons moves closed)).run_eq, finish]
  simp only [ends]

theorem emptySelector_of_reads {text : List Char} {last : State}
    (reads : Reads (Token.ofChars text) {} last) (untouched : last.Untouched) :
    ∃ error, Expr.ofChars text = .error error ∧ error.kind = .emptySelector := by
  obtain ⟨fault, finished, empty⟩ :=
    (finish_emptySelector_iff (Text.byteLength text) last).mpr untouched
  refine ⟨_, (Expr.ofChars_eq_error_iff_run text _).mpr ⟨fault, ?_, rfl⟩, empty⟩
  rw [reads.run_eq, finished]

theorem reads_of_emptySelector {text : List Char} {error : ParseError}
    (rejected : Expr.ofChars text = .error error) (empty : error.kind = .emptySelector) :
    ∃ last : State, Reads (Token.ofChars text) {} last ∧ last.Reflects text ∧
      last.Untouched := by
  obtain ⟨fault, failed, rfl⟩ := (Expr.ofChars_eq_error_iff_run text error).mp rejected
  rcases State.Reflects.start.run (Token.placed_scan 0 text) with
    ⟨last, reads, reflects⟩ | ⟨other, fails, points⟩
  · have finished := (reads.run_eq _).symm.trans failed
    exact ⟨last, reads, reflects, (finish_emptySelector_iff _ last).mp ⟨fault, finished, empty⟩⟩
  · rw [Except.error.inj (failed.symm.trans (fails _))] at empty
    -- Only at its end can a text be reported as empty.
    obtain ⟨before, c, rest, _, _, _, describes⟩ := points
    rw [show other.1 = .emptySelector from empty] at describes
    cases describes.1

/-- Right behind an open parenthesis neither a term nor an operator has been read. -/
theorem exists_reads_opening {earlier blanks rest : List Char} {expr : Expr}
    (blank : Text.allBlank blanks)
    (accepted : Expr.ofChars (earlier ++ '(' :: (blanks ++ rest)) = .ok expr) :
    ∃ last : State, Reads (Token.ofChars (earlier ++ '(' :: blanks)) {} last ∧ last.Untouched := by
  let opening : Token := Token.shift (Text.byteLength earlier) ⟨.opening, 0⟩
  have tokens (more : List Char) : ∃ others,
      Token.ofChars (earlier ++ '(' :: more) = Token.ofChars earlier ++ opening :: others ∧
        (Text.allBlank more → others = []) := by
    rw [Token.ofChars_append earlier (by rintro c ⟨⟩; decide), Token.ofChars_sign rfl]
    refine ⟨_, rfl, fun allBlank => ?_⟩
    rw [Token.ofChars_of_allBlank allBlank]
    rfl
  obtain ⟨others, whole, _⟩ := tokens (blanks ++ rest)
  obtain ⟨nothing, stopped, none⟩ := tokens blanks
  rw [Expr.ofChars_eq_ok_iff_run, whole] at accepted
  obtain ⟨⟨level, enclosing⟩, reads, _⟩ := Reads.of_run accepted
  refine ⟨⟨{}, (opening.position, level) :: enclosing⟩, ?_, rfl, rfl⟩
  rw [stopped, none blank]
  exact reads.append (Reads.token .opening)

end Parser

/-- A text is rejected as empty if and only if it is white space, or is the start of a selector that
stops right behind an open parenthesis. -/
theorem parse_emptySelector_iff (text : String) :
    (∃ error, parse text = .error error ∧ error.kind = .emptySelector) ↔
      Text.allBlank text.toList ∨ StopsAtOpening text := by
  simp only [parse_eq_error_iff]
  constructor
  · rintro ⟨error, rejected, empty⟩
    obtain ⟨⟨level, enclosing⟩, reads, reflects, terms, operator⟩ :=
      Parser.reads_of_emptySelector rejected empty
    have awaits := reflects.awaits terms
    rw [show level.operator = none from operator] at awaits
    cases enclosing with
    | nil => exact .inl awaits
    | cons =>
      obtain ⟨earlier, ends, _⟩ := awaits
      obtain ⟨rest, expr, accepted⟩ := Parser.exists_completion reads
      refine .inr ⟨⟨earlier, ends⟩, String.ofList rest, ⟨Text.trim (text.toList ++ rest), expr⟩, ?_⟩
      rw [parse_eq_ok_iff, String.toList_append, String.toList_ofList]
      exact ⟨accepted, rfl⟩
  · rintro (blank | ⟨⟨earlier, blanks, written, blank⟩, rest, selector, parsed⟩)
    · have start : Parser.Reads (Token.ofChars text.toList) {} {} := by
        rw [Token.ofChars_of_allBlank blank]
        exact fun _ _ => rfl
      exact Parser.emptySelector_of_reads start ⟨rfl, rfl⟩
    · have accepted := ((parse_eq_ok_iff _ _).mp parsed).1
      rw [String.toList_append, written, List.append_assoc, List.cons_append] at accepted
      obtain ⟨last, reads, untouched⟩ := Parser.exists_reads_opening blank accepted
      rw [written]
      exact Parser.emptySelector_of_reads reads untouched

theorem open_parenthesis_reported_as_empty :
    ¬ Text.allBlank "(".toList ∧ parse "(" = .error ⟨.emptySelector, 1, ['(']⟩ :=
  ⟨by decide, rfl⟩

end ScopeCascade.Selector
