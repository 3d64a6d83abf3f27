import ScopeCascade.Proofs.Scope.Text
import ScopeCascade.Selector.Token

/-! What the tokens of a text are, said without a scanner: signs, and runs of segment characters and
dots that nothing prolongs. The scanner finds these tokens in every text, each at its place. -/
namespace ScopeCascade.Selector

/-- The token that a character is by itself where a token starts. -/
def TokenKind.ofSign? : Char → Option TokenKind
  | '(' => some .opening
  | ')' => some .closing
  | ',' => some .comma
  | '|' => some .bar
  | '-' => some .minus
  | _ => none

/-- Whether a token may stand in a selector: the segments of an atom are not empty, and no stray
character is left. -/
def TokenKind.Proper : TokenKind → Prop
  | .atom run => ∀ segment ∈ run.splitOn '.', segment ≠ []
  | .stray _ => False
  | _ => True

/-- The text consists of these tokens and of white space. -/
inductive Lexes : List Char → List TokenKind → Prop
  | done : Lexes [] []
  | blank {c : Char} {rest : List Char} {kinds : List TokenKind} :
      Text.isBlank c → Lexes rest kinds → Lexes (c :: rest) kinds
  | sign {c : Char} {kind : TokenKind} {rest : List Char} {kinds : List TokenKind} :
      TokenKind.ofSign? c = some kind → Lexes rest kinds → Lexes (c :: rest) (kind :: kinds)
  | atom {run rest : List Char} {kinds : List TokenKind} :
      (∀ c ∈ run, Token.isRunChar c) → run.head? ≠ some '-' →
      (∀ segment ∈ run.splitOn '.', segment ≠ []) →
      (∀ c, rest.head? = some c → ¬ Token.isRunChar c) →
      Lexes rest kinds → Lexes (run ++ rest) (.atom run :: kinds)

namespace TokenKind

/-- The text of a token. -/
def chars : TokenKind → List Char
  | opening => ['(']
  | closing => [')']
  | comma => [',']
  | bar => ['|']
  | minus => ['-']
  | atom run => run
  | stray c => [c]

/-- What a token demands of its own characters and of the text after it. -/
def StandsBefore (rest : List Char) : TokenKind → Prop
  | atom run => run ≠ [] ∧ (∀ c ∈ run, Token.isRunChar c) ∧ run.head? ≠ some '-' ∧
      ∀ c, rest.head? = some c → ¬ Token.isRunChar c
  | stray c => ¬ Text.isBlank c ∧ ofSign? c = none ∧ ¬ Token.isRunChar c
  | _ => True

theorem ofSign?_cases {c : Char} {kind : TokenKind} (sign : ofSign? c = some kind) :
    (c = '(' ∧ kind = .opening) ∨ (c = ')' ∧ kind = .closing) ∨ (c = ',' ∧ kind = .comma) ∨
      (c = '|' ∧ kind = .bar) ∨ (c = '-' ∧ kind = .minus) := by
  unfold ofSign? at sign
  split at sign <;> cases sign <;> simp

theorem chars_of_ofSign? {c : Char} {kind : TokenKind} (sign : ofSign? c = some kind) :
    kind.chars = [c] := by
  rcases ofSign?_cases sign with ⟨rfl, rfl⟩ | ⟨rfl, rfl⟩ | ⟨rfl, rfl⟩ | ⟨rfl, rfl⟩ | ⟨rfl, rfl⟩ <;>
    rfl

theorem standsBefore_of_ofSign? {c : Char} {kind : TokenKind} (sign : ofSign? c = some kind)
    (rest : List Char) : kind.StandsBefore rest := by
  rcases ofSign?_cases sign with ⟨_, rfl⟩ | ⟨_, rfl⟩ | ⟨_, rfl⟩ | ⟨_, rfl⟩ | ⟨_, rfl⟩ <;> trivial

theorem proper_of_ofSign? {c : Char} {kind : TokenKind} (sign : ofSign? c = some kind) :
    kind.Proper := by
  rcases ofSign?_cases sign with ⟨_, rfl⟩ | ⟨_, rfl⟩ | ⟨_, rfl⟩ | ⟨_, rfl⟩ | ⟨_, rfl⟩ <;> trivial

end TokenKind

namespace Token

/-- The token, with so much text more before it. -/
def shift (distance : Nat) (token : Token) : Token := ⟨token.kind, distance + token.position⟩

/-- From a position on, the text consists of these tokens, each at its place, and of white space. -/
inductive Placed : Nat → List Char → List Token → Prop
  | done {position : Nat} : Placed position [] []
  | blank {position : Nat} {c : Char} {rest : List Char} {tokens : List Token} :
      Text.isBlank c → Placed (position + c.utf8Size) rest tokens →
      Placed position (c :: rest) tokens
  | token {position : Nat} {kind : TokenKind} {rest : List Char} {tokens : List Token} :
      kind.StandsBefore rest → Placed (position + Text.byteLength kind.chars) rest tokens →
      Placed position (kind.chars ++ rest) (⟨kind, position⟩ :: tokens)

theorem not_isBlank_of_isRunChar {c : Char} (inside : isRunChar c) : Text.isBlank c = false := by
  rw [isRunChar, Bool.or_eq_true, decide_eq_true_iff] at inside
  rcases inside with segment | rfl
  · exact not_isBlank_of_isSegmentChar segment
  · decide

theorem not_isRunChar_of_ofSign? {c : Char} {kind : TokenKind}
    (sign : TokenKind.ofSign? c = some kind) (notMinus : c ≠ '-') : isRunChar c = false := by
  rcases TokenKind.ofSign?_cases sign with ⟨rfl, _⟩ | ⟨rfl, _⟩ | ⟨rfl, _⟩ | ⟨rfl, _⟩ | ⟨rfl, _⟩
  all_goals first | rfl | contradiction

theorem start_of_isBlank {c : Char} (blank : Text.isBlank c) (position : Nat) :
    start position c = (none, none) := by
  rw [start, if_pos blank]

theorem start_of_sign {c : Char} {kind : TokenKind} (sign : TokenKind.ofSign? c = some kind)
    (position : Nat) : start position c = (some ⟨kind, position⟩, none) := by
  rcases TokenKind.ofSign?_cases sign with
    ⟨rfl, rfl⟩ | ⟨rfl, rfl⟩ | ⟨rfl, rfl⟩ | ⟨rfl, rfl⟩ | ⟨rfl, rfl⟩ <;> rfl

theorem start_of_other {c : Char} (notBlank : ¬ Text.isBlank c)
    (noSign : TokenKind.ofSign? c = none) (position : Nat) :
    start position c =
      if isRunChar c then (none, some (position, [c])) else (some ⟨.stray c, position⟩, none) := by
  have differs : c ≠ '(' ∧ c ≠ ')' ∧ c ≠ ',' ∧ c ≠ '|' ∧ c ≠ '-' := by
    refine ⟨?_, ?_, ?_, ?_, ?_⟩ <;> (rintro rfl; contradiction)
  obtain ⟨notOpening, notClosing, notComma, notBar, notMinus⟩ := differs
  rw [start, if_neg notBlank, if_neg notOpening, if_neg notClosing, if_neg notComma, if_neg notBar,
    if_neg notMinus]

theorem scan_of_isBlank {c : Char} (blank : Text.isBlank c) (position : Nat) (rest : List Char) :
    scan position none (c :: rest) = scan (position + c.utf8Size) none rest := by
  rw [scan, start_of_isBlank blank]
  rfl

theorem scan_of_sign {c : Char} {kind : TokenKind} (sign : TokenKind.ofSign? c = some kind)
    (position : Nat) (rest : List Char) :
    scan position none (c :: rest) =
      ⟨kind, position⟩ :: scan (position + c.utf8Size) none rest := by
  rw [scan, start_of_sign sign]
  rfl

theorem scan_of_stray {c : Char} (notBlank : ¬ Text.isBlank c)
    (noSign : TokenKind.ofSign? c = none) (outside : ¬ isRunChar c) (position : Nat)
    (rest : List Char) :
    scan position none (c :: rest) =
      ⟨.stray c, position⟩ :: scan (position + c.utf8Size) none rest := by
  rw [scan, start_of_other notBlank noSign, if_neg outside]
  rfl

/-- A run goes on as long as it can. -/
theorem scan_some (position : Nat) (run : Run) (text : List Char) :
    scan position (some run) text =
      ⟨.atom (run.2.reverse ++ text.takeWhile isRunChar), run.1⟩ ::
        scan (position + Text.byteLength (text.takeWhile isRunChar)) none
          (text.dropWhile isRunChar) := by
  induction text generalizing position run with
  | nil => simp [scan, ofRun]
  | cons c rest ih =>
    by_cases inside : isRunChar c
    · rw [scan, if_pos inside, ih, List.takeWhile_cons_of_pos inside,
        List.dropWhile_cons_of_pos inside, List.reverse_cons, List.append_assoc,
        List.singleton_append, Text.byteLength_cons, Nat.add_assoc]
    · rw [scan, if_neg inside, List.takeWhile_cons_of_neg inside,
        List.dropWhile_cons_of_neg inside, List.append_nil, Text.byteLength_nil, Nat.add_zero, scan]
      rfl

theorem scan_of_run {c : Char} (inside : isRunChar c) (notMinus : c ≠ '-') (position : Nat)
    (rest : List Char) :
    scan position none (c :: rest) =
      ⟨.atom (c :: rest.takeWhile isRunChar), position⟩ ::
        scan (position + Text.byteLength (c :: rest.takeWhile isRunChar)) none
          (rest.dropWhile isRunChar) := by
  have noSign : TokenKind.ofSign? c = none := by
    rw [Option.eq_none_iff_forall_ne_some]
    intro kind sign
    have outside := not_isRunChar_of_ofSign? sign notMinus
    rw [inside] at outside
    contradiction
  rw [scan, start_of_other (Bool.eq_false_iff.mp (not_isBlank_of_isRunChar inside)) noSign,
    if_pos inside, Text.byteLength_cons, ← Nat.add_assoc]
  exact scan_some _ _ rest

/-- A run that begins as an atom does is one token, up to a character outside. -/
theorem scan_of_atom {run rest : List Char} (stands : (TokenKind.atom run).StandsBefore rest)
    (position : Nat) :
    scan position none (run ++ rest) =
      ⟨.atom run, position⟩ :: scan (position + Text.byteLength run) none rest := by
  obtain ⟨filled, inside, begins, ends⟩ := stands
  cases run with
  | nil => contradiction
  | cons c more =>
    have insideMore : ∀ d ∈ more, isRunChar d := fun d member => inside d (by simp [member])
    have notMinus : c ≠ '-' := fun same => begins (congrArg some same)
    have stops : rest.takeWhile isRunChar = [] ∧ rest.dropWhile isRunChar = rest := by
      cases rest with
      | nil => exact ⟨rfl, rfl⟩
      | cons d later =>
        have outside := ends d rfl
        exact ⟨List.takeWhile_cons_of_neg outside, List.dropWhile_cons_of_neg outside⟩
    rw [List.cons_append, scan_of_run (inside c (by simp)) notMinus,
      List.takeWhile_append_of_pos insideMore, List.dropWhile_append_of_pos insideMore, stops.1,
      stops.2, List.append_nil]

theorem scan_of_token {kind : TokenKind} {rest : List Char} (stands : kind.StandsBefore rest)
    (position : Nat) :
    scan position none (kind.chars ++ rest) =
      ⟨kind, position⟩ :: scan (position + Text.byteLength kind.chars) none rest := by
  cases kind with
  | atom run => exact scan_of_atom stands position
  | stray c => exact scan_of_stray stands.1 stands.2.1 stands.2.2 position rest
  | _ => exact scan_of_sign rfl position rest

theorem Placed.sign {position : Nat} {c : Char} {kind : TokenKind} {rest : List Char}
    {tokens : List Token} (sign : TokenKind.ofSign? c = some kind)
    (placed : Placed (position + c.utf8Size) rest tokens) :
    Placed position (c :: rest) (⟨kind, position⟩ :: tokens) := by
  have steps :=
    @Placed.token position kind rest tokens (TokenKind.standsBefore_of_ofSign? sign rest)
  rw [TokenKind.chars_of_ofSign? sign] at steps
  exact steps placed

theorem placed_scan (position : Nat) (text : List Char) :
    Placed position text (scan position none text) := by
  match text with
  | [] => exact .done
  | c :: rest =>
    by_cases blank : Text.isBlank c
    · rw [scan_of_isBlank blank]
      exact .blank blank (placed_scan _ rest)
    cases sign : TokenKind.ofSign? c with
    | some kind =>
      rw [scan_of_sign sign]
      exact .sign sign (placed_scan _ rest)
    | none =>
      by_cases inside : isRunChar c
      · have notMinus : c ≠ '-' := by
          rintro rfl
          contradiction
        have shorter : (rest.dropWhile isRunChar).length ≤ rest.length :=
          (List.dropWhile_sublist isRunChar).length_le
        -- What stops the run is the end of the text or a character outside.
        have stands : (TokenKind.atom (c :: rest.takeWhile isRunChar)).StandsBefore
            (rest.dropWhile isRunChar) := by
          refine ⟨List.cons_ne_nil _ _, ?_, fun same => notMinus (Option.some.inj same), ?_⟩
          · intro d member
            rcases List.mem_cons.mp member with rfl | later
            · exact inside
            · exact List.all_eq_true.mp List.all_takeWhile d later
          · intro d first
            have outside := List.head?_dropWhile_not isRunChar rest
            rw [first] at outside
            simpa using outside
        have split : c :: rest =
            (TokenKind.atom (c :: rest.takeWhile isRunChar)).chars ++ rest.dropWhile isRunChar := by
          rw [TokenKind.chars, List.cons_append, List.takeWhile_append_dropWhile]
        rw [scan_of_run inside notMinus, split]
        exact .token stands (placed_scan _ _)
      · rw [scan_of_stray blank sign inside]
        exact @Placed.token _ (.stray c) _ _ ⟨blank, sign, inside⟩ (placed_scan _ rest)
termination_by text.length

theorem placed_iff (position : Nat) (text : List Char) (tokens : List Token) :
    Placed position text tokens ↔ tokens = scan position none text := by
  constructor
  · intro placed
    induction placed with
    | done => rfl
    | blank blank _ ih => rw [ih, scan_of_isBlank blank]
    | token stands _ ih => rw [ih, scan_of_token stands]
  · rintro rfl
    exact placed_scan position text

theorem Placed.shift {position : Nat} {text : List Char} {tokens : List Token}
    (placed : Placed position text tokens) (distance : Nat) :
    Placed (distance + position) text (tokens.map (Token.shift distance)) := by
  induction placed with
  | done => exact .done
  | blank blank _ ih => exact .blank blank (by rwa [Nat.add_assoc])
  | token stands _ ih => exact .token stands (by rwa [Nat.add_assoc])

/-- Tokens move with their text. -/
theorem scan_shift (distance : Nat) (text : List Char) :
    scan distance none text = (ofChars text).map (shift distance) :=
  ((placed_iff distance text _).mp ((placed_scan 0 text).shift distance)).symm

theorem map_kind_shift (distance : Nat) (tokens : List Token) :
    (tokens.map (shift distance)).map kind = tokens.map kind :=
  List.map_map

/-- The tokens of a text without their positions. -/
def kinds (text : List Char) : List TokenKind := (ofChars text).map Token.kind

theorem map_kind_scan (position : Nat) (text : List Char) :
    (scan position none text).map kind = kinds text := by
  rw [scan_shift, map_kind_shift, kinds]

theorem kinds_of_isBlank {c : Char} (blank : Text.isBlank c) (rest : List Char) :
    kinds (c :: rest) = kinds rest := by
  rw [kinds, ofChars, scan_of_isBlank blank, map_kind_scan]

theorem kinds_of_sign {c : Char} {kind : TokenKind} (sign : TokenKind.ofSign? c = some kind)
    (rest : List Char) : kinds (c :: rest) = kind :: kinds rest := by
  rw [kinds, ofChars, scan_of_sign sign, List.map_cons, map_kind_scan]

theorem kinds_of_atom {run rest : List Char} (filled : run ≠ []) (inside : ∀ c ∈ run, isRunChar c)
    (begins : run.head? ≠ some '-') (ends : ∀ c, rest.head? = some c → ¬ isRunChar c) :
    kinds (run ++ rest) = .atom run :: kinds rest := by
  rw [kinds, ofChars, scan_of_atom ⟨filled, inside, begins, ends⟩, List.map_cons,
    map_kind_scan]

theorem kinds_of_lexes {text : List Char} {tokens : List TokenKind} (lexes : Lexes text tokens) :
    kinds text = tokens := by
  induction lexes with
  | done => rfl
  | blank blank _ ih => rw [kinds_of_isBlank blank, ih]
  | sign sign _ ih => rw [kinds_of_sign sign, ih]
  | @atom run rest tokens inside begins segments ends _ ih =>
    have filled : run ≠ [] := by
      rintro rfl
      exact segments [] (by simp) rfl
    rw [kinds_of_atom filled inside begins ends, ih]

theorem Placed.lexes {position : Nat} {text : List Char} {tokens : List Token}
    (placed : Placed position text tokens) (proper : ∀ token ∈ tokens, token.kind.Proper) :
    Lexes text (tokens.map kind) := by
  induction placed with
  | done => exact .done
  | blank blank _ ih => exact .blank blank (ih proper)
  | @token _ kind _ _ stands _ ih =>
    obtain ⟨first, later⟩ := List.forall_mem_cons.mp proper
    cases kind with
    | atom run => exact .atom stands.2.1 stands.2.2.1 first stands.2.2.2 (ih later)
    | stray c => exact first.elim
    | _ => exact .sign rfl (ih later)

theorem lexes_kinds (text : List Char) (proper : ∀ kind ∈ kinds text, kind.Proper) :
    Lexes text (kinds text) :=
  (placed_scan 0 text).lexes (List.forall_mem_map.mp proper)

/-- A text has at most one list of tokens, which is the one that the scanner finds. -/
theorem lexes_iff (text : List Char) (tokens : List TokenKind) :
    Lexes text tokens ↔ tokens = kinds text ∧ ∀ kind ∈ tokens, kind.Proper := by
  constructor
  · intro lexes
    refine ⟨(kinds_of_lexes lexes).symm, ?_⟩
    induction lexes with
    | done => simp
    | blank _ _ ih => exact ih
    | sign sign _ ih => exact List.forall_mem_cons.mpr ⟨TokenKind.proper_of_ofSign? sign, ih⟩
    | atom _ _ segments _ _ ih => exact List.forall_mem_cons.mpr ⟨segments, ih⟩
  · rintro ⟨rfl, proper⟩
    exact lexes_kinds text proper

end Token

end ScopeCascade.Selector
