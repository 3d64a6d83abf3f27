import ScopeCascade.Proofs.Scope.Reading
import ScopeCascade.Proofs.Selector.Excerpt
import ScopeCascade.Proofs.Selector.Nesting
import ScopeCascade.Proofs.Selector.Parsing
import ScopeCascade.Proofs.Selector.Placement

/-! What an error says of the text. Between two tokens the parser's state reflects all of the text
before: which parentheses are open in it, and what a term is still awaited after. So an error is
true of the text on either side of its position. -/
namespace ScopeCascade.Selector

/-- White space, and whatever a selector may be made of. -/
def InAlphabet (c : Char) : Prop :=
  Text.isBlank c ∨ isSegmentChar c ∨ c ∈ ['.', ',', '|', '(', ')']

instance : DecidablePred InAlphabet := fun c =>
  inferInstanceAs (Decidable (_ ∨ _ ∨ c ∈ ['.', ',', '|', '(', ')']))

/-- The character is the last of the text that is not white space. -/
def EndsWith (text earlier : List Char) (c : Char) : Prop :=
  ∃ blanks, text = earlier ++ c :: blanks ∧ Text.allBlank blanks

/-- What each kind of error says of the text before and after its position. -/
def ErrorKind.Describes (before after : List Char) : ErrorKind → Prop
  | emptySelector =>
    after = [] ∧ (Text.allBlank before ∨ ∃ earlier, EndsWith before earlier '(')
  | emptyAtom =>
    after.takeWhile Token.isRunChar ≠ [] ∧ [] ∈ (after.takeWhile Token.isRunChar).splitOn '.'
  | danglingOperator operator =>
    operator ∈ [',', '|', '-'] ∧
      (after.head? = some operator ∨ ∃ earlier, EndsWith before earlier operator)
  | unclosedGroup =>
    ∃ inner, after = '(' :: inner ∧ ∀ group more, inner = group ++ ')' :: more → ¬ Balanced group
  | unmatchedParen => after.head? = some ')' ∧ Balanced before
  | emptyGroup => ∃ blanks more, after = '(' :: blanks ++ ')' :: more ∧ Text.allBlank blanks
  | alternationOutsideGroup => after.head? = some '|' ∧ Balanced before
  | unexpectedChar c => after.head? = some c ∧ ¬ InAlphabet c ∧ ∀ d ∈ before, InAlphabet d

theorem EndsWith.blank {text earlier : List Char} {c d : Char} (ends : EndsWith text earlier c)
    (blank : Text.isBlank d) : EndsWith (text ++ [d]) earlier c := by
  obtain ⟨blanks, rfl, all⟩ := ends
  refine ⟨blanks ++ [d], by simp, (Text.allBlank_iff _).mpr ?_⟩
  exact List.forall_mem_append.mpr
    ⟨(Text.allBlank_iff _).mp all, List.forall_mem_singleton.mpr blank⟩

theorem endsWith_append (text : List Char) (c : Char) : EndsWith (text ++ [c]) text c :=
  ⟨[], rfl, rfl⟩

namespace TokenKind

variable {run rest : List Char}

theorem not_inAlphabet_of_stray {c : Char} (stands : (stray c).StandsBefore rest) :
    ¬ InAlphabet c := by
  obtain ⟨notBlank, noSign, outside⟩ := stands
  rw [Token.isRunChar, Bool.or_eq_true, not_or] at outside
  rintro (blank | inside | other)
  · exact notBlank blank
  · exact outside.1 inside
  · simp only [List.mem_cons, List.not_mem_nil, or_false] at other
    rcases other with rfl | rfl | rfl | rfl | rfl
    · exact outside.2 (by decide)
    all_goals cases noSign

theorem inAlphabet_of_isRunChar {c : Char} (inside : Token.isRunChar c) : InAlphabet c := by
  rw [Token.isRunChar, Bool.or_eq_true, decide_eq_true_iff] at inside
  rcases inside with segment | rfl
  · exact .inr (.inl segment)
  · decide

theorem inAlphabet_of_proper {kind : TokenKind} (stands : kind.StandsBefore rest)
    (proper : kind.Proper) : ∀ c ∈ kind.chars, InAlphabet c := by
  cases kind with
  | atom run => exact fun c member => inAlphabet_of_isRunChar (stands.2.1 c member)
  | stray c => exact proper.elim
  | _ => exact List.forall_mem_singleton.mpr (by decide)

theorem balanced_run (inside : ∀ c ∈ run, Token.isRunChar c) : Balanced run := by
  apply Balanced.of_plain
  intro c member
  refine ⟨?_, ?_⟩ <;> (rintro rfl; exact absurd (inside _ member) (by decide))

/-- A run that is no scope has an empty segment. -/
theorem nil_mem_splitOn_of_ofPieces? (inside : ∀ c ∈ run, Token.isRunChar c)
    (read : Scope.ofPieces? (run.splitOn '.') = none) : [] ∈ run.splitOn '.' := by
  refine Decidable.byContradiction fun filled => ?_
  have letters : ∀ c ∈ run, c = '.' ∨ SegmentLetter c := by
    intro c member
    have kinds := inside c member
    rw [Token.isRunChar, Bool.or_eq_true, decide_eq_true_iff, isSegmentChar_iff] at kinds
    exact kinds.symm
  obtain ⟨scope, rfl⟩ := Scope.exists_chars_of_checks filled letters
  rw [(Scope.ofPieces?_eq_some_iff _ scope).mpr scope.splitOn_chars.symm] at read
  contradiction

end TokenKind

namespace Parser

/-- What a term is awaited after: an operator, an open parenthesis or the start of the text. -/
def Awaits (text : List Char) : Option Char → List Nat → Prop
  | some operator, _ => operator ∈ [',', '|', '-'] ∧ ∃ earlier, EndsWith text earlier operator
  | none, [] => Text.allBlank text
  | none, opened :: _ => ∃ earlier, EndsWith text earlier '(' ∧ Text.byteLength earlier = opened

/-- What a state between two tokens says of the text before. -/
structure State.Reflects (text : List Char) (state : State) : Prop where
  leaves : LeavesOpen text (state.enclosing.map Prod.fst)
  awaits : state.level.terms = [] →
    Awaits text state.level.operator (state.enclosing.map Prod.fst)
  known : ∀ c ∈ text, InAlphabet c

/-- The error is true of the text at a character that can be seen. -/
def Fault.Points (text : List Char) (fault : Fault) : Prop :=
  ∃ before c rest, text = before ++ c :: rest ∧ Text.byteLength before = fault.2 ∧
    ¬ Text.isBlank c ∧ fault.1.Describes before (c :: rest)

/-- How the parser ends, wherever the text is said to stop: an error is true of the text at a
character, or it is about the end. -/
inductive Ends (text : List Char) (outcome : Nat → Except Fault Expr) : Prop
  | accepted {expr : Expr} : (∀ stop, outcome stop = .ok expr) → Ends text outcome
  | within {fault : Fault} :
      (∀ stop, outcome stop = .error fault) → fault.Points text → Ends text outcome
  | atEnd {kind : ErrorKind} :
      (∀ stop, outcome stop = .error (kind, stop)) → kind.Describes text [] → Ends text outcome

theorem Awaits.blank {text : List Char} {c : Char} {operator : Option Char} {opened : List Nat}
    (awaits : Awaits text operator opened) (blank : Text.isBlank c) :
    Awaits (text ++ [c]) operator opened := by
  match operator, opened with
  | some _, _ =>
    obtain ⟨known, earlier, ends⟩ := awaits
    exact ⟨known, earlier, ends.blank blank⟩
  | none, [] =>
    exact (Text.allBlank_iff _).mpr (List.forall_mem_append.mpr
      ⟨(Text.allBlank_iff _).mp awaits, List.forall_mem_singleton.mpr blank⟩)
  | none, _ :: _ =>
    obtain ⟨earlier, ends, position⟩ := awaits
    exact ⟨earlier, ends.blank blank, position⟩

theorem Level.missing_some {level : Level} {operator : Char}
    (after : level.operator = some operator) (otherwise : Fault) (position : Nat) :
    level.missing otherwise position = (.danglingOperator operator, position) := by
  rw [Level.missing, after]

theorem Level.missing_none {level : Level} (after : level.operator = none) (otherwise : Fault)
    (position : Nat) : level.missing otherwise position = otherwise := by
  rw [Level.missing, after]

namespace State.Reflects

variable {text rest : List Char} {state : State} {level : Level} {enclosing : List (Nat × Level)}

theorem start : State.Reflects [] {} := ⟨.none rfl, fun _ => rfl, by simp⟩

theorem blank {c : Char} (reflects : state.Reflects text) (blank : Text.isBlank c) :
    state.Reflects (text ++ [c]) where
  leaves := reflects.leaves.append (Balanced.of_plain (List.forall_mem_singleton.mpr
    ⟨by rintro rfl; contradiction, by rintro rfl; contradiction⟩))
  awaits terms := (reflects.awaits terms).blank blank
  known := List.forall_mem_append.mpr
    ⟨reflects.known, List.forall_mem_singleton.mpr (.inl blank)⟩

theorem moves {kind : TokenKind} {after : State} (reflects : state.Reflects text)
    (stands : kind.StandsBefore rest) (moves : Moves (Text.byteLength text) state kind after) :
    after.Reflects (text ++ kind.chars) := by
  have known := List.forall_mem_append.mpr
    ⟨reflects.known, TokenKind.inAlphabet_of_proper stands moves.proper⟩
  cases moves with
  | atom =>
    exact ⟨reflects.leaves.append (TokenKind.balanced_run stands.2.1), nofun, known⟩
  | opening =>
    exact ⟨reflects.leaves.opened, fun _ => ⟨text, endsWith_append text '(', rfl⟩, known⟩
  | closing => exact ⟨reflects.leaves.closed, nofun, known⟩
  | comma =>
    exact ⟨reflects.leaves.append rfl, fun _ => ⟨by simp, text, endsWith_append text ','⟩, known⟩
  | bar =>
    exact ⟨reflects.leaves.append rfl, fun _ => ⟨by simp, text, endsWith_append text '|'⟩, known⟩
  | minus =>
    exact ⟨reflects.leaves.append rfl, fun _ => ⟨by simp, text, endsWith_append text '-'⟩, known⟩

/-- Where a term is missing, the operator before it is named, if there is one. -/
theorem missing (reflects : State.Reflects text ⟨level, enclosing⟩) (terms : level.terms = [])
    {c : Char} (visible : ¬ Text.isBlank c) {otherwise : Fault}
    (other : level.operator = none → Fault.Points (text ++ c :: rest) otherwise) :
    Fault.Points (text ++ c :: rest) (level.missing otherwise (Text.byteLength text)) := by
  cases after : level.operator with
  | none =>
    rw [Level.missing_none after]
    exact other after
  | some operator =>
    have awaits := reflects.awaits terms
    rw [after] at awaits
    obtain ⟨known, ends⟩ := awaits
    rw [Level.missing_some after]
    exact ⟨text, c, rest, rfl, rfl, visible, known, .inr ends⟩

theorem atomFault {run : List Char} {tokens : List Token} (reflects : state.Reflects text)
    (stands : (TokenKind.atom run).StandsBefore rest)
    (placed : Token.Placed (Text.byteLength text + Text.byteLength run) rest tokens)
    (read : Scope.ofPieces? (run.splitOn '.') = none) :
    Fault.Points (text ++ (run ++ rest))
      (Parser.atomFault run (Text.byteLength text) tokens.head?) := by
  obtain ⟨c, more, begins, visible⟩ := TokenKind.visible_of_standsBefore stands
  obtain ⟨filled, inside, _, stops⟩ := stands
  have alone : (run ++ rest).takeWhile Token.isRunChar = run := by
    have nothing : rest.takeWhile Token.isRunChar = [] := by
      cases rest with
      | nil => rfl
      | cons d later => exact List.takeWhile_cons_of_neg (stops d rfl)
    rw [List.takeWhile_append_of_pos inside, nothing, List.append_nil]
  have empty : Fault.Points (text ++ (run ++ rest)) (.emptyAtom, Text.byteLength text) := by
    have whole : run ++ rest = c :: (more ++ rest) := congrArg (· ++ rest) begins
    refine ⟨text, c, more ++ rest, congrArg (text ++ ·) whole, rfl, visible, ?_⟩
    rw [← whole, ErrorKind.Describes, alone]
    exact ⟨filled, TokenKind.nil_mem_splitOn_of_ofPieces? inside read⟩
  unfold Parser.atomFault
  split
  · rename_i stray place next
    split
    · exact empty
    · rename_i here
      obtain ⟨others, rfl⟩ := List.head?_eq_some_iff.mp next
      have adjacent : place = Text.byteLength text + Text.byteLength run :=
        Decidable.not_not.mp (not_or.mp here).2
      subst adjacent
      -- The stray character stands right behind the run.
      obtain ⟨later, rfl, standsStray⟩ := placed.head
      have known : ∀ d ∈ text ++ run, InAlphabet d := List.forall_mem_append.mpr
        ⟨reflects.known, fun d member => TokenKind.inAlphabet_of_isRunChar (inside d member)⟩
      exact ⟨text ++ run, stray, later, (List.append_assoc _ _ _).symm,
        Text.byteLength_append _ _, standsStray.1, rfl,
        TokenKind.not_inAlphabet_of_stray standsStray, known⟩
  · exact empty

theorem closingFault {next : Option Token} {fault : Fault}
    (reflects : State.Reflects text ⟨level, enclosing⟩)
    (stepped : step next ⟨level, enclosing⟩ ⟨.closing, Text.byteLength text⟩ = .error fault) :
    fault.Points (text ++ ')' :: rest) := by
  cases enclosing with
  | nil =>
    have unmatched : Fault.Points (text ++ ')' :: rest) (.unmatchedParen, Text.byteLength text) :=
      ⟨text, ')', rest, rfl, rfl, by decide, rfl, reflects.leaves.balanced⟩
    cases ends : level.exclusion? with
    | some last =>
      simp only [step, ends] at stepped
      cases stepped
      exact unmatched
    | none =>
      simp only [step, ends] at stepped
      cases stepped
      exact reflects.missing ((Level.exclusion?_eq_none_iff level).mp ends) (by decide)
        fun _ => unmatched
  | cons =>
    cases ends : level.exclusion? with
    | some last => simp [step, ends] at stepped
    | none =>
      have terms := (Level.exclusion?_eq_none_iff level).mp ends
      simp only [step, ends] at stepped
      cases stepped
      refine reflects.missing terms (by decide) fun after => ?_
      have awaits := reflects.awaits terms
      rw [after] at awaits
      obtain ⟨earlier, ⟨blanks, rfl, all⟩, position⟩ := awaits
      exact ⟨earlier, '(', blanks ++ ')' :: rest, by simp, position, by decide, blanks, rest,
        rfl, all⟩

theorem fault {kind : TokenKind} {tokens : List Token} {fault : Fault}
    (reflects : state.Reflects text) (stands : kind.StandsBefore rest)
    (placed : Token.Placed (Text.byteLength text + Text.byteLength kind.chars) rest tokens)
    (stepped : step tokens.head? state ⟨kind, Text.byteLength text⟩ = .error fault) :
    fault.Points (text ++ (kind.chars ++ rest)) := by
  obtain ⟨level, enclosing⟩ := state
  cases kind with
  | atom run =>
    simp only [step] at stepped
    split at stepped
    · contradiction
    · rename_i read
      cases stepped
      exact reflects.atomFault stands placed read
  | opening => contradiction
  | closing => exact reflects.closingFault stepped
  | comma =>
    cases ends : level.exclusion? with
    | some finished => simp [step, ends] at stepped
    | none =>
      simp only [step, ends] at stepped
      cases stepped
      exact ⟨text, ',', rest, rfl, rfl, by decide, by simp, .inl rfl⟩
  | bar =>
    cases ends : level.exclusion? with
    | some finished =>
      cases enclosing with
      | nil =>
        simp only [step, ends] at stepped
        cases stepped
        exact ⟨text, '|', rest, rfl, rfl, by decide, rfl, reflects.leaves.balanced⟩
      | cons => simp [step, ends] at stepped
    | none =>
      simp only [step, ends] at stepped
      cases stepped
      exact ⟨text, '|', rest, rfl, rfl, by decide, by simp, .inl rfl⟩
  | minus =>
    cases ends : level.exclusion? with
    | some minuend => simp [step, ends] at stepped
    | none =>
      simp only [step, ends] at stepped
      cases stepped
      exact ⟨text, '-', rest, rfl, rfl, by decide, by simp, .inl rfl⟩
  | stray c =>
    have unexpected : Fault.Points (text ++ c :: rest) (.unexpectedChar c, Text.byteLength text) :=
      ⟨text, c, rest, rfl, rfl, stands.1, rfl, TokenKind.not_inAlphabet_of_stray stands,
        reflects.known⟩
    simp only [step] at stepped
    split at stepped
    · rename_i terms
      cases stepped
      exact reflects.missing (List.isEmpty_iff.mp terms) stands.1 fun _ => unexpected
    · cases stepped
      exact unexpected

/-- The parser reads all tokens of a text, or else reports an error that is true of it. -/
theorem run {tokens : List Token} (reflects : state.Reflects text)
    (placed : Token.Placed (Text.byteLength text) rest tokens) :
    (∃ last : State, Reads tokens state last ∧ last.Reflects (text ++ rest)) ∨
      ∃ fault : Fault, (∀ stop, Parser.run stop state tokens = .error fault) ∧
        fault.Points (text ++ rest) := by
  -- The induction is on the tokens; `text` and `state` are what has been read before them.
  generalize start : Text.byteLength text = position at placed
  induction placed generalizing text state with
  | done =>
    rw [List.append_nil]
    exact .inl ⟨state, fun _ _ => rfl, reflects⟩
  | @blank position c rest tokens blank _ ih =>
    have next : Text.byteLength (text ++ [c]) = position + c.utf8Size := by
      rw [Text.byteLength_append, start]
      rfl
    have later := ih (reflects.blank blank) next
    rwa [List.append_assoc] at later
  | @token position kind rest tokens stands placed ih =>
    subst start
    cases stepped : step tokens.head? state ⟨kind, Text.byteLength text⟩ with
    | error fault =>
      refine .inr ⟨fault, fun stop => ?_, reflects.fault stands placed stepped⟩
      rw [run_cons, stepped]
    | ok after =>
      have moves := (step_eq_ok_iff _ _ _ _).mp stepped
      have later := ih (reflects.moves stands moves) (Text.byteLength_append _ _)
      rw [List.append_assoc] at later
      rcases later with ⟨last, reads, reflectsLast⟩ | ⟨fault, fails, points⟩
      · exact .inl ⟨last, Reads.cons moves reads, reflectsLast⟩
      · refine .inr ⟨fault, fun stop => ?_, points⟩
        rw [run_cons, stepped]
        exact fails stop

/-- At the end of the text an error is about the end, or about a parenthesis that is still open. -/
theorem finish (reflects : state.Reflects text) : Ends text (Parser.finish · state) := by
  obtain ⟨level, enclosing⟩ := state
  cases ends : level.exclusion? with
  | some last =>
    cases enclosing with
    | nil =>
      have accepts (stop : Nat) :
          Parser.finish stop ⟨level, []⟩ = .ok (Expr.ofAlternatives (level.all last)) := by
        simp only [Parser.finish, ends]
      exact .accepted accepts
    | cons opened enclosing =>
      have fails (stop : Nat) : Parser.finish stop ⟨level, opened :: enclosing⟩ =
          .error (.unclosedGroup, opened.1) := by
        simp only [Parser.finish, ends]
      obtain ⟨before, inner, rfl, position, unclosed⟩ := reflects.leaves.innermost
      exact .within fails ⟨before, '(', inner, rfl, position, by decide, inner, rfl, unclosed⟩
  | none =>
    have awaits := reflects.awaits ((Level.exclusion?_eq_none_iff level).mp ends)
    cases after : level.operator with
    | some operator =>
      have fails (stop : Nat) :
          Parser.finish stop ⟨level, enclosing⟩ = .error (.danglingOperator operator, stop) := by
        simp only [Parser.finish, ends, Level.missing_some after]
      rw [after] at awaits
      obtain ⟨known, endsWith⟩ := awaits
      exact .atEnd fails ⟨known, .inr endsWith⟩
    | none =>
      have fails (stop : Nat) :
          Parser.finish stop ⟨level, enclosing⟩ = .error (.emptySelector, stop) := by
        simp only [Parser.finish, ends, Level.missing_none after]
      rw [after] at awaits
      cases enclosing with
      | nil => exact .atEnd fails ⟨rfl, .inl awaits⟩
      | cons =>
        obtain ⟨earlier, endsWith, _⟩ := awaits
        exact .atEnd fails ⟨rfl, .inr ⟨earlier, endsWith⟩⟩

end State.Reflects

theorem ends_run (text : List Char) : Ends text (run · {} (Token.ofChars text)) := by
  rcases State.Reflects.start.run (Token.placed_scan 0 text) with
    ⟨last, reads, reflects⟩ | ⟨fault, fails, points⟩
  · have finished : (run · {} (Token.ofChars text)) = (finish · last) := funext reads.run_eq
    rw [finished]
    exact reflects.finish
  · exact .within fails points

end Parser

theorem Expr.ofChars_eq_error {text : List Char} {error : ParseError}
    (rejected : ofChars text = .error error) :
    ∃ before after, text = before ++ after ∧
      error = .ofKind text error.kind (Text.byteLength before) ∧
      (∀ c, after.head? = some c → ¬ Text.isBlank c) ∧ error.kind.Describes before after := by
  obtain ⟨fault, failed, rfl⟩ := (ofChars_eq_error_iff_run text error).mp rejected
  cases Parser.ends_run text with
  | accepted accepts =>
    rw [accepts] at failed
    contradiction
  | within fails points =>
    cases failed.symm.trans (fails _)
    obtain ⟨before, c, rest, whole, position, visible, describes⟩ := points
    refine ⟨before, c :: rest, whole, by rw [position]; rfl, ?_, describes⟩
    rintro d ⟨⟩
    exact visible
  | atEnd fails describes =>
    cases failed.symm.trans (fails _)
    exact ⟨text, [], (List.append_nil text).symm, rfl, by simp, describes⟩

/-- The error for a text that has more than white space names a place between two characters that no
white space follows, shows the word there or the end of the last word, and is true of the text on
either side. -/
theorem error_describes_text (text : String) (error : ParseError)
    (written : ¬ Text.allBlank text.toList) (rejected : parse text = .error error) :
    ∃ before after, text.toList = before ++ after ∧ Text.byteLength before = error.position ∧
      (∀ c, after.head? = some c → ¬ Text.isBlank c) ∧
      ParseError.Shows before after error.fragment ∧ error.kind.Describes before after := by
  obtain ⟨before, after, whole, same, visible, describes⟩ :=
    Expr.ofChars_eq_error ((parse_eq_error_iff text error).mp rejected)
  rw [whole] at written same
  rw [same]
  exact ⟨before, after, whole, rfl, visible, ParseError.shows_excerpt visible written, describes⟩

theorem error_describes_minus_before_wide_space :
    let text := "a\u3000(b -\u2003)"
    let error : ParseError := ⟨.danglingOperator '-', 11, [')']⟩
    ¬ Text.allBlank text.toList ∧ parse text = .error error ∧
      ∃ before after, text.toList = before ++ after ∧ Text.byteLength before = 11 ∧
        (∀ c, after.head? = some c → ¬ Text.isBlank c) ∧
        ParseError.Shows before after [')'] ∧
        (ErrorKind.danglingOperator '-').Describes before after := by
  intro text error
  have written : ¬ Text.allBlank text.toList := by decide
  have rejected : parse "a\u3000(b -\u2003)" = .error error := rfl
  exact ⟨written, rejected, error_describes_text text error written rejected⟩

end ScopeCascade.Selector
