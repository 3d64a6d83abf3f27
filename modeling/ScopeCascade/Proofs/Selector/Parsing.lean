import ScopeCascade.Proofs.Selector.Grammar
import ScopeCascade.Proofs.Selector.Lexing
import ScopeCascade.Selector.Basic

/-! The parser accepts exactly the selectors that the grammar derives, and gives the expression that
it derives them as. The parser reads the tokens of a derivation in whatever context they stand; and
what it keeps between two tokens stands for derivations of all tokens before. -/
namespace ScopeCascade.Selector

namespace Parser

open Grammar

theorem run_cons (stop : Nat) (state : State) (token : Token) (rest : List Token) :
    run stop state (token :: rest) =
      match step rest.head? state token with
      | .ok state => run stop state rest
      | .error fault => .error fault := rfl

theorem Level.exclusion?_eq_some_iff (level : Level) (expr : Expr) :
    level.exclusion? = some expr ↔ level.terms ≠ [] ∧
      (match level.minuend with
        | none => Expr.ofTerms level.terms.reverse
        | some minuend => .exclusion minuend (Expr.ofTerms level.terms.reverse)) = expr := by
  unfold Level.exclusion?
  split
  · rename_i empty
    simp [List.isEmpty_iff.mp empty]
  · rename_i filled
    have nonempty : level.terms ≠ [] := fun empty => filled (List.isEmpty_iff.mpr empty)
    rw [Option.some_inj]
    exact (and_iff_right nonempty).symm

theorem Level.exclusion?_eq_none_iff (level : Level) :
    level.exclusion? = none ↔ level.terms = [] := by
  unfold Level.exclusion?
  split
  · rename_i empty
    exact iff_of_true rfl (List.isEmpty_iff.mp empty)
  · rename_i filled
    exact iff_of_false nofun fun empty => filled (List.isEmpty_iff.mpr empty)

theorem Level.exists_exclusion {level : Level} (filled : level.terms ≠ []) :
    ∃ expr, level.exclusion? = some expr :=
  ⟨_, (Level.exclusion?_eq_some_iff level _).mpr ⟨filled, rfl⟩⟩

/-- What a token that the parser accepts does to its state. -/
inductive Moves (position : Nat) : State → TokenKind → State → Prop
  | atom {level : Level} {enclosing : List (Nat × Level)} {run : List Char} {scope : Scope} :
      Scope.ofPieces? (run.splitOn '.') = some scope →
      Moves position ⟨level, enclosing⟩ (.atom run) ⟨level.push (.atom scope), enclosing⟩
  | opening {level : Level} {enclosing : List (Nat × Level)} :
      Moves position ⟨level, enclosing⟩ .opening ⟨{}, (position, level) :: enclosing⟩
  | closing {level outer : Level} {opened : Nat} {enclosing : List (Nat × Level)} {last : Expr} :
      level.exclusion? = some last →
      Moves position ⟨level, (opened, outer) :: enclosing⟩ .closing
        ⟨outer.push (.group (level.all last)), enclosing⟩
  | comma {level : Level} {enclosing : List (Nat × Level)} {finished : Expr} :
      level.exclusion? = some finished →
      Moves position ⟨level, enclosing⟩ .comma ⟨level.alternative finished ',', enclosing⟩
  | bar {level : Level} {enclosing : List (Nat × Level)} {finished : Expr} :
      level.exclusion? = some finished → enclosing ≠ [] →
      Moves position ⟨level, enclosing⟩ .bar ⟨level.alternative finished '|', enclosing⟩
  | minus {level : Level} {enclosing : List (Nat × Level)} {minuend : Expr} :
      level.exclusion? = some minuend →
      Moves position ⟨level, enclosing⟩ .minus ⟨level.subtract minuend, enclosing⟩

theorem step_eq_ok_iff (next : Option Token) (state after : State) (token : Token) :
    step next state token = .ok after ↔ Moves token.position state token.kind after := by
  obtain ⟨level, enclosing⟩ := state
  obtain ⟨kind, position⟩ := token
  constructor
  · intro stepped
    cases kind with
    | atom run =>
      simp only [step] at stepped
      split at stepped
      · rename_i scope read
        cases stepped
        exact .atom read
      · contradiction
    | opening =>
      cases stepped
      exact .opening
    | closing =>
      cases ends : level.exclusion? with
      | none => cases enclosing <;> simp [step, ends] at stepped
      | some last =>
        cases enclosing with
        | nil => simp [step, ends] at stepped
        | cons =>
          simp only [step, ends] at stepped
          cases stepped
          exact .closing ends
    | comma =>
      cases ends : level.exclusion? with
      | none => simp [step, ends] at stepped
      | some finished =>
        simp only [step, ends] at stepped
        cases stepped
        exact .comma ends
    | bar =>
      cases ends : level.exclusion? with
      | none => simp [step, ends] at stepped
      | some finished =>
        cases enclosing with
        | nil => simp [step, ends] at stepped
        | cons =>
          simp only [step, ends] at stepped
          cases stepped
          exact .bar ends (List.cons_ne_nil _ _)
    | minus =>
      cases ends : level.exclusion? with
      | none => simp [step, ends] at stepped
      | some minuend =>
        simp only [step, ends] at stepped
        cases stepped
        exact .minus ends
    | stray c =>
      simp only [step] at stepped
      split at stepped <;> contradiction
  · intro moves
    cases moves with
    | atom read => simp only [step, read]
    | opening => rfl
    | closing ends => simp only [step, ends]
    | comma ends => simp only [step, ends]
    | bar ends inside =>
      obtain ⟨outer, others, rfl⟩ := List.exists_cons_of_ne_nil inside
      simp only [step, ends]
    | minus ends => simp only [step, ends]

theorem run_cons_eq_ok_iff (stop : Nat) (state : State) (token : Token) (rest : List Token)
    (expr : Expr) :
    run stop state (token :: rest) = .ok expr ↔ ∃ after,
      Moves token.position state token.kind after ∧ run stop after rest = .ok expr := by
  rw [run_cons]
  constructor
  · intro parsed
    cases stepped : step rest.head? state token with
    | error fault =>
      rw [stepped] at parsed
      contradiction
    | ok after =>
      rw [stepped] at parsed
      exact ⟨after, (step_eq_ok_iff _ _ _ _).mp stepped, parsed⟩
  · rintro ⟨after, moves, parsed⟩
    rw [(step_eq_ok_iff _ _ _ _).mpr moves]
    exact parsed

/-- The parser gets from one state to another through these tokens, whatever follows them. -/
def Reads (tokens : List Token) (before after : State) : Prop :=
  ∀ stop rest, run stop before (tokens ++ rest) = run stop after rest

namespace Reads

theorem token {token : Token} {before after : State}
    (moves : Moves token.position before token.kind after) : Reads [token] before after := by
  intro stop rest
  rw [List.singleton_append, run_cons, (step_eq_ok_iff _ _ _ _).mpr moves]

theorem append {tokens more : List Token} {before between after : State}
    (first : Reads tokens before between) (last : Reads more between after) :
    Reads (tokens ++ more) before after := by
  intro stop rest
  rw [List.append_assoc, first, last]

theorem cons {token : Token} {more : List Token} {before between after : State}
    (moves : Moves token.position before token.kind between) (last : Reads more between after) :
    Reads (token :: more) before after :=
  (Reads.token moves).append last

theorem run_eq {tokens : List Token} {before after : State} (reads : Reads tokens before after)
    (stop : Nat) : run stop before tokens = finish stop after := by
  have finished := reads stop []
  rwa [List.append_nil] at finished

/-- What the parser reads of a selector, it reads whatever follows. -/
theorem of_run {tokens more : List Token} {before : State} {stop : Nat} {expr : Expr}
    (parsed : run stop before (tokens ++ more) = .ok expr) :
    ∃ between, Reads tokens before between ∧ run stop between more = .ok expr := by
  induction tokens generalizing before with
  | nil => exact ⟨before, fun _ _ => rfl, parsed⟩
  | cons token rest ih =>
    obtain ⟨after, moves, parsed⟩ := (run_cons_eq_ok_iff _ _ _ _ _).mp parsed
    obtain ⟨between, reads, parsed⟩ := ih parsed
    exact ⟨between, Reads.cons moves reads, parsed⟩

end Reads

/-- Nothing of an exclusion has been read yet. -/
def Level.Fresh (level : Level) : Prop := level.terms = [] ∧ level.minuend = none

mutual

theorem reads_term {kinds : List TokenKind} {term : Expr} (derived : Term kinds term)
    {tokens : List Token} (same : tokens.map Token.kind = kinds) (level : Level)
    (enclosing : List (Nat × Level)) :
    Reads tokens ⟨level, enclosing⟩ ⟨level.push term, enclosing⟩ := by
  match derived with
  | .atom pieces =>
    obtain ⟨token, rfl, kind⟩ := List.map_eq_singleton_iff.mp same
    apply Reads.token
    rw [kind]
    exact .atom ((Scope.ofPieces?_eq_some_iff _ _).mpr pieces)
  | .group alternatives =>
    obtain ⟨opening, more, rfl, opens, sameMore⟩ := List.map_eq_cons_iff.mp same
    obtain ⟨inner, rest, rfl, sameInner, sameRest⟩ := List.map_eq_append_iff.mp sameMore
    obtain ⟨closing, rfl, closes⟩ := List.map_eq_singleton_iff.mp sameRest
    obtain ⟨after, last, ends, all, reads⟩ :=
      reads_alternatives alternatives sameInner ((opening.position, level) :: enclosing)
        fun _ => List.cons_ne_nil _ _
    refine Reads.cons (opens ▸ .opening) (reads.append (Reads.token ?_))
    rw [closes, ← all]
    exact .closing ends

theorem reads_terms {kinds : List TokenKind} {terms : List Expr} (derived : Terms kinds terms)
    {tokens : List Token} (same : tokens.map Token.kind = kinds) (level : Level)
    (enclosing : List (Nat × Level)) :
    Reads tokens ⟨level, enclosing⟩
      ⟨{ level with terms := terms.reverse ++ level.terms }, enclosing⟩ := by
  match derived with
  | .first term => exact reads_term term same level enclosing
  | .next terms term =>
    obtain ⟨tokens, more, rfl, sameTerms, sameMore⟩ := List.map_eq_append_iff.mp same
    have first := reads_terms terms sameTerms level enclosing
    rw [List.reverse_append]
    exact first.append (reads_term term sameMore _ enclosing)

theorem reads_sequence {kinds : List TokenKind} {expr : Expr} (derived : Sequence kinds expr)
    {tokens : List Token} (same : tokens.map Token.kind = kinds) (level : Level)
    (fresh : level.terms = []) (enclosing : List (Nat × Level)) :
    ∃ terms, terms ≠ [] ∧ Expr.ofTerms terms.reverse = expr ∧
      Reads tokens ⟨level, enclosing⟩ ⟨{ level with terms }, enclosing⟩ := by
  match derived with
  | .single term =>
    refine ⟨[expr], List.cons_ne_nil _ _, rfl, ?_⟩
    have reads := reads_term term same level enclosing
    rw [Level.push, fresh] at reads
    exact reads
  | @Sequence.several _ terms derived several =>
    have reads := reads_terms derived same level enclosing
    rw [fresh, List.append_nil] at reads
    refine ⟨terms.reverse, ?_, ?_, reads⟩
    · rw [ne_eq, List.reverse_eq_nil_iff]
      rintro rfl
      contradiction
    · rw [List.reverse_reverse, Expr.ofTerms_of_several several]

theorem reads_exclusion {kinds : List TokenKind} {expr : Expr} (derived : Exclusion kinds expr)
    {tokens : List Token} (same : tokens.map Token.kind = kinds) (level : Level)
    (fresh : level.Fresh) (enclosing : List (Nat × Level)) :
    ∃ after : Level, after.alternatives = level.alternatives ∧ after.exclusion? = some expr ∧
      Reads tokens ⟨level, enclosing⟩ ⟨after, enclosing⟩ := by
  match derived with
  | .sequence sequence =>
    obtain ⟨terms, nonempty, rfl, reads⟩ := reads_sequence sequence same level fresh.1 enclosing
    refine ⟨{ level with terms }, rfl, ?_, reads⟩
    rw [Level.exclusion?_eq_some_iff]
    dsimp only
    rw [fresh.2]
    exact ⟨nonempty, rfl⟩
  | @Exclusion.minus _ _ kept _ derivedKept derivedExcluded =>
    obtain ⟨tokens, rest, rfl, sameKept, sameRest⟩ := List.map_eq_append_iff.mp same
    obtain ⟨minus, more, rfl, subtracts, sameMore⟩ := List.map_eq_cons_iff.mp sameRest
    obtain ⟨before, alternatives, ends, readsKept⟩ :=
      reads_exclusion derivedKept sameKept level fresh enclosing
    obtain ⟨terms, nonempty, rfl, readsExcluded⟩ :=
      reads_sequence derivedExcluded sameMore (before.subtract kept) rfl enclosing
    refine ⟨{ before.subtract kept with terms }, alternatives, ?_, ?_⟩
    · rw [Level.exclusion?_eq_some_iff]
      exact ⟨nonempty, rfl⟩
    · exact readsKept.append (Reads.cons (subtracts ▸ .minus ends) readsExcluded)

theorem reads_alternatives {grouped : Bool} {kinds : List TokenKind} {alternatives : List Expr}
    (derived : Alternatives grouped kinds alternatives) {tokens : List Token}
    (same : tokens.map Token.kind = kinds) (enclosing : List (Nat × Level))
    (inside : grouped = true → enclosing ≠ []) :
    ∃ (after : Level) (last : Expr), after.exclusion? = some last ∧
      after.all last = alternatives ∧ Reads tokens ⟨{}, enclosing⟩ ⟨after, enclosing⟩ := by
  match derived with
  | @Alternatives.first _ _ alternative derived =>
    obtain ⟨after, alternatives, ends, reads⟩ :=
      reads_exclusion derived same {} ⟨rfl, rfl⟩ enclosing
    refine ⟨after, alternative, ends, ?_, reads⟩
    rw [Level.all, alternatives]
    rfl
  | @Alternatives.next _ _ _ _ _ alternative earlier separator derived =>
    obtain ⟨tokens, rest, rfl, sameEarlier, sameRest⟩ := List.map_eq_append_iff.mp same
    obtain ⟨token, more, rfl, separates, sameMore⟩ := List.map_eq_cons_iff.mp sameRest
    obtain ⟨before, finished, ends, all, readsEarlier⟩ :=
      reads_alternatives earlier sameEarlier enclosing inside
    obtain ⟨operator, moves⟩ : ∃ operator, Moves token.position ⟨before, enclosing⟩ token.kind
        ⟨before.alternative finished operator, enclosing⟩ := by
      rw [separates]
      cases separator with
      | comma => exact ⟨',', .comma ends⟩
      | bar => exact ⟨'|', .bar ends (inside rfl)⟩
    obtain ⟨after, alternatives, endsAfter, reads⟩ := reads_exclusion derived sameMore
      (before.alternative finished operator) ⟨rfl, rfl⟩ enclosing
    refine ⟨after, alternative, endsAfter, ?_, readsEarlier.append (Reads.cons moves reads)⟩
    rw [← all, Level.all, alternatives, Level.alternative, List.reverse_cons]
    rfl

end

/-- Alternatives with what separates each from the next one. -/
inductive Finished (grouped : Bool) : List TokenKind → List Expr → Prop
  | none : Finished grouped [] []
  | some {kinds : List TokenKind} {separator : TokenKind} {alternatives : List Expr} :
      Alternatives grouped kinds alternatives → Separator grouped separator →
      Finished grouped (kinds ++ [separator]) alternatives

/-- The left side of a minus sign and the sign. -/
inductive Subtracted : List TokenKind → Option Expr → Prop
  | none : Subtracted [] none
  | some {kinds : List TokenKind} {minuend : Expr} :
      Exclusion kinds minuend → Subtracted (kinds ++ [.minus]) (some minuend)

/-- The terms of a sequence so far. -/
inductive Collected : List TokenKind → List Expr → Prop
  | none : Collected [] []
  | some {kinds : List TokenKind} {terms : List Expr} : Terms kinds terms → Collected kinds terms

/-- The level stands for the tokens since its parenthesis. -/
def Level.Holds (grouped : Bool) (kinds : List TokenKind) (level : Level) : Prop :=
  ∃ finished subtracted collected, kinds = finished ++ subtracted ++ collected ∧
    Finished grouped finished level.alternatives.reverse ∧ Subtracted subtracted level.minuend ∧
    Collected collected level.terms.reverse

namespace Level.Holds

variable {grouped : Bool} {kinds more : List TokenKind} {level : Level}

theorem empty : Level.Holds grouped [] {} := ⟨[], [], [], rfl, .none, .none, .none⟩

theorem push (holds : level.Holds grouped kinds) {term : Expr} (derived : Term more term) :
    (level.push term).Holds grouped (kinds ++ more) := by
  obtain ⟨finished, subtracted, collected, rfl, readFinished, readSubtracted, readCollected⟩ :=
    holds
  refine ⟨finished, subtracted, collected ++ more, by simp only [List.append_assoc],
    readFinished, readSubtracted, ?_⟩
  rw [Level.push, List.reverse_cons]
  generalize level.terms.reverse = terms at readCollected
  cases readCollected with
  | none => exact .some (.first derived)
  | some earlier => exact .some (.next earlier derived)

theorem exclusion (holds : level.Holds grouped kinds) {expr : Expr}
    (ends : level.exclusion? = some expr) :
    ∃ finished last, kinds = finished ++ last ∧
      Finished grouped finished level.alternatives.reverse ∧ Exclusion last expr := by
  obtain ⟨finished, subtracted, collected, rfl, readFinished, readSubtracted, readCollected⟩ :=
    holds
  obtain ⟨nonempty, rfl⟩ := (Level.exclusion?_eq_some_iff _ _).mp ends
  refine ⟨finished, subtracted ++ collected, List.append_assoc _ _ _, readFinished, ?_⟩
  have sequence : Sequence collected (Expr.ofTerms level.terms.reverse) := by
    cases same : level.terms.reverse with
    | nil => exact absurd (List.reverse_eq_nil_iff.mp same) nonempty
    | cons first rest =>
      rw [same] at readCollected
      cases readCollected with
      | some derived => exact derived.sequence
  cases same : level.minuend with
  | none =>
    rw [same] at readSubtracted
    cases readSubtracted with
    | none => exact .sequence sequence
  | some minuend =>
    rw [same] at readSubtracted
    cases readSubtracted with
    | some derived =>
      rw [List.append_assoc, List.singleton_append]
      exact .minus derived sequence

theorem all (holds : level.Holds grouped kinds) {last : Expr}
    (ends : level.exclusion? = some last) : Alternatives grouped kinds (level.all last) := by
  obtain ⟨finished, rest, rfl, readFinished, derived⟩ := holds.exclusion ends
  rw [Level.all]
  generalize level.alternatives.reverse = alternatives at readFinished
  cases readFinished with
  | none => exact .first derived
  | some earlier separator =>
    rw [List.append_assoc, List.singleton_append]
    exact .next earlier separator derived

theorem alternative (holds : level.Holds grouped kinds) {finished : Expr}
    (ends : level.exclusion? = some finished) {separator : TokenKind}
    (separates : Separator grouped separator) (operator : Char) :
    (level.alternative finished operator).Holds grouped (kinds ++ [separator]) := by
  refine ⟨kinds ++ [separator], [], [], by simp, ?_, .none, .none⟩
  rw [Level.alternative, List.reverse_cons]
  exact .some (holds.all ends) separates

theorem subtract (holds : level.Holds grouped kinds) {minuend : Expr}
    (ends : level.exclusion? = some minuend) :
    (level.subtract minuend).Holds grouped (kinds ++ [.minus]) := by
  obtain ⟨finished, last, rfl, readFinished, derived⟩ := holds.exclusion ends
  exact ⟨finished, last ++ [.minus], [], by simp, readFinished, .some derived, .none⟩

end Level.Holds

/-- The state stands for the tokens so far. -/
inductive State.Holds : List TokenKind → State → Prop
  | outermost {kinds : List TokenKind} {level : Level} :
      level.Holds false kinds → State.Holds kinds ⟨level, []⟩
  | inside {kinds inner : List TokenKind} {position : Nat} {level outer : Level}
      {enclosing : List (Nat × Level)} :
      State.Holds kinds ⟨outer, enclosing⟩ → level.Holds true inner →
      State.Holds (kinds ++ .opening :: inner) ⟨level, (position, outer) :: enclosing⟩

namespace State.Holds

variable {kinds : List TokenKind} {level : Level} {enclosing : List (Nat × Level)}

/-- What the tokens of the innermost level come to with more of them, the whole state does. -/
theorem advance (holds : State.Holds kinds ⟨level, enclosing⟩) {more : List TokenKind}
    {next : Level}
    (advances : ∀ inner, level.Holds (!enclosing.isEmpty) inner →
      next.Holds (!enclosing.isEmpty) (inner ++ more)) :
    State.Holds (kinds ++ more) ⟨next, enclosing⟩ := by
  cases holds with
  | outermost holds => exact .outermost (advances _ holds)
  | inside outer holds =>
    rw [List.append_assoc, List.cons_append]
    exact .inside outer (advances _ holds)

theorem moves {state after : State} {kind : TokenKind} {position : Nat}
    (holds : state.Holds kinds) (moves : Moves position state kind after) :
    after.Holds (kinds ++ [kind]) := by
  cases moves with
  | atom read =>
    have pieces := (Scope.ofPieces?_eq_some_iff _ _).mp read
    exact holds.advance fun _ inner => inner.push (.atom pieces)
  | opening => exact .inside holds .empty
  | closing ends =>
    cases holds with
    | inside outer holds =>
      have closed := outer.advance fun _ inside => inside.push (.group (holds.all ends))
      rw [List.append_assoc]
      exact closed
  | comma ends => exact holds.advance fun _ inner => inner.alternative ends .comma ','
  | @bar _ enclosing _ ends inside =>
    cases enclosing with
    | nil => contradiction
    | cons => exact holds.advance fun _ inner => inner.alternative ends .bar '|'
  | minus ends => exact holds.advance fun _ inner => inner.subtract ends

theorem run {state : State} {tokens : List Token} {stop : Nat} {expr : Expr}
    (holds : state.Holds kinds) (parsed : Parser.run stop state tokens = .ok expr) :
    Whole (kinds ++ tokens.map Token.kind) expr := by
  -- `kinds` are the tokens that were read before, for which the state stands.
  induction tokens generalizing state kinds with
  | nil =>
    change finish stop state = .ok expr at parsed
    rw [List.map_nil, List.append_nil]
    unfold finish at parsed
    cases ends : state.level.exclusion? with
    | none => simp [ends] at parsed
    | some last =>
      cases holds with
      | inside outer holds => simp [ends] at parsed
      | outermost holds =>
        simp only [ends] at parsed
        cases parsed
        exact (holds.all ends).whole
  | cons token rest ih =>
    obtain ⟨after, moves, parsed⟩ := (run_cons_eq_ok_iff _ _ _ _ _).mp parsed
    have derived := ih (holds.moves moves) parsed
    rwa [List.append_assoc] at derived

end State.Holds

theorem Moves.proper {state after : State} {kind : TokenKind} {position : Nat}
    (moves : Moves position state kind after) : kind.Proper := by
  cases moves with
  | atom read =>
    intro segment member empty
    rw [← (Scope.ofPieces?_eq_some_iff _ _).mp read] at member
    obtain ⟨valid, _, rfl⟩ := List.mem_map.mp member
    have nonempty := valid.property
    rw [empty] at nonempty
    contradiction
  | _ => trivial

theorem proper_of_run {state : State} {tokens : List Token} {stop : Nat} {expr : Expr}
    (parsed : run stop state tokens = .ok expr) : ∀ token ∈ tokens, token.kind.Proper := by
  induction tokens generalizing state with
  | nil => simp
  | cons token rest ih =>
    obtain ⟨after, moves, parsed⟩ := (run_cons_eq_ok_iff _ _ _ _ _).mp parsed
    exact List.forall_mem_cons.mpr ⟨moves.proper, ih parsed⟩

theorem run_of_derived {kinds : List TokenKind} {expr : Expr} (derived : Whole kinds expr)
    {tokens : List Token} (same : tokens.map Token.kind = kinds) (stop : Nat) :
    run stop {} tokens = .ok expr := by
  obtain ⟨listed, whole⟩ := derived.alternatives
  obtain ⟨after, last, ends, all, reads⟩ := reads_alternatives listed same [] (by simp)
  rw [reads.run_eq, finish]
  simp only [ends, all, whole]

end Parser

theorem Expr.ofChars_eq_ok_iff_run (text : List Char) (expr : Expr) :
    Expr.ofChars text = .ok expr ↔
      Parser.run (Text.byteLength text) {} (Token.ofChars text) = .ok expr := by
  rw [Expr.ofChars]
  cases Parser.run (Text.byteLength text) {} (Token.ofChars text) <;> simp

theorem Expr.ofChars_eq_error_iff_run (text : List Char) (error : ParseError) :
    Expr.ofChars text = .error error ↔ ∃ fault : Parser.Fault,
      Parser.run (Text.byteLength text) {} (Token.ofChars text) = .error fault ∧
        .ofKind text fault.1 fault.2 = error := by
  rw [Expr.ofChars]
  cases Parser.run (Text.byteLength text) {} (Token.ofChars text) <;> simp

theorem Expr.ofChars_eq_ok_iff (text : List Char) (expr : Expr) :
    Expr.ofChars text = .ok expr ↔
      ∃ tokens, Lexes text tokens ∧ Grammar.Whole tokens expr := by
  rw [ofChars_eq_ok_iff_run]
  constructor
  · intro accepted
    refine ⟨Token.kinds text, (Token.lexes_iff text _).mpr ⟨rfl, ?_⟩, ?_⟩
    · exact List.forall_mem_map.mpr (Parser.proper_of_run accepted)
    · exact (Parser.State.Holds.outermost .empty).run accepted
  · rintro ⟨tokens, lexes, derived⟩
    have tokensRead := ((Token.lexes_iff text tokens).mp lexes).1
    exact Parser.run_of_derived derived tokensRead.symm _

theorem parse_eq_ok_iff (text : String) (selector : Selector) :
    parse text = .ok selector ↔ Expr.ofChars text.toList = .ok selector.expr ∧
      selector.source = Text.trim text.toList := by
  rw [parse, ofChars]
  cases Expr.ofChars text.toList with
  | error error => simp [Except.map]
  | ok expr =>
    cases selector
    simp [Except.map, and_comm, eq_comm]

theorem parse_eq_error_iff (text : String) (error : ParseError) :
    parse text = .error error ↔ Expr.ofChars text.toList = .error error := by
  rw [parse, ofChars]
  cases Expr.ofChars text.toList <;> simp [Except.map]

/-- A text parses to an expression if and only if its tokens derive it, and then no part of the
expression is a union or has a simpler form. -/
theorem parse_iff_derives (text : String) :
    (∀ expr, (∃ selector, parse text = .ok selector ∧ selector.expr = expr) ↔
        ∃ tokens, Lexes text.toList tokens ∧ Grammar.Whole tokens expr) ∧
      ∀ selector, parse text = .ok selector → selector.expr.IsWhole := by
  constructor
  · intro expr
    rw [← Expr.ofChars_eq_ok_iff]
    constructor
    · rintro ⟨selector, parsed, rfl⟩
      exact ((parse_eq_ok_iff _ _).mp parsed).1
    · intro accepted
      exact ⟨⟨Text.trim text.toList, expr⟩, (parse_eq_ok_iff _ _).mpr ⟨accepted, rfl⟩, rfl⟩
  · intro selector parsed
    obtain ⟨tokens, _, derived⟩ :=
      (Expr.ofChars_eq_ok_iff _ _).mp ((parse_eq_ok_iff _ _).mp parsed).1
    exact derived.isWhole

end ScopeCascade.Selector
