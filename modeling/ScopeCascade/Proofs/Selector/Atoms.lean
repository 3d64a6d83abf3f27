import Mathlib
import ScopeCascade.Proofs.Selector.Parsing

/-! What the atoms of an expression are in the text that it was read from: the runs of segment
characters and dots there, from left to right and as they are written. Groups, exclusions and terms
that stand for themselves change how the atoms are nested, and never their order. -/
namespace ScopeCascade.Selector

namespace Expr

mutual

theorem visit_eq_foldl {σ : Type} (action : σ → Scope → σ) (state : σ) :
    (expr : Expr) → visit action state expr = expr.atoms.foldl action state
  | atom scope => rfl
  | sequence terms => visitAll_eq_foldl action state terms
  | union alternatives => visitAll_eq_foldl action state alternatives
  | exclusion kept excluded => by
    rw [visit, visit_eq_foldl action state kept, visit_eq_foldl action _ excluded, atoms,
      List.foldl_append]
  | group alternatives => visitAll_eq_foldl action state alternatives

theorem visitAll_eq_foldl {σ : Type} (action : σ → Scope → σ) (state : σ) :
    (exprs : List Expr) → visitAll action state exprs = (atomsOfAll exprs).foldl action state
  | [] => rfl
  | expr :: rest => by
    rw [visitAll, visit_eq_foldl action state expr, visitAll_eq_foldl action _ rest, atomsOfAll,
      List.foldl_append]

end

theorem atomsOfAll_append (exprs others : List Expr) :
    atomsOfAll (exprs ++ others) = atomsOfAll exprs ++ atomsOfAll others := by
  induction exprs with
  | nil => rfl
  | cons expr rest ih => rw [List.cons_append, atomsOfAll, ih, atomsOfAll, List.append_assoc]

theorem atomsOfAll_concat (exprs : List Expr) (last : Expr) :
    atomsOfAll (exprs ++ [last]) = atomsOfAll exprs ++ last.atoms := by
  rw [atomsOfAll_append, atomsOfAll, atomsOfAll, List.append_nil]

end Expr

namespace TokenKind

/-- The characters of an atom. -/
def run? : TokenKind → Option (List Char)
  | atom run => some run
  | _ => none

/-- The atoms among some tokens. -/
def runs (tokens : List TokenKind) : List (List Char) := tokens.filterMap run?

theorem runs_append (tokens more : List TokenKind) :
    runs (tokens ++ more) = runs tokens ++ runs more :=
  List.filterMap_append

theorem runs_cons_of_none {kind : TokenKind} (noRun : kind.run? = none) (tokens : List TokenKind) :
    runs (kind :: tokens) = runs tokens :=
  List.filterMap_cons_none noRun

theorem run?_of_ofSign? {c : Char} {kind : TokenKind} (sign : ofSign? c = some kind) :
    kind.run? = none := by
  rcases ofSign?_cases sign with ⟨_, rfl⟩ | ⟨_, rfl⟩ | ⟨_, rfl⟩ | ⟨_, rfl⟩ | ⟨_, rfl⟩ <;> rfl

end TokenKind

namespace Grammar

open TokenKind

theorem Separator.run? {grouped : Bool} {separator : TokenKind}
    (separates : Separator grouped separator) : separator.run? = none := by
  cases separates <;> rfl

mutual

theorem Term.map_chars_atoms {tokens : List TokenKind} {term : Expr}
    (derived : Term tokens term) : term.atoms.map Scope.chars = runs tokens := by
  match derived with
  | @Term.atom run scope pieces =>
    have written : scope.chars = run := by
      rw [Scope.chars, pieces]
      exact List.intercalate_splitOn '.'
    rw [Expr.atoms, List.map_singleton, written]
    rfl
  | .group alternatives =>
    rw [Expr.atoms, alternatives.map_chars_atoms, List.cons_append, runs_cons_of_none rfl,
      runs_append]
    exact (List.append_nil _).symm

theorem Terms.map_chars_atoms {tokens : List TokenKind} {terms : List Expr}
    (derived : Terms tokens terms) : (Expr.atomsOfAll terms).map Scope.chars = runs tokens := by
  match derived with
  | .first term =>
    rw [Expr.atomsOfAll, Expr.atomsOfAll, List.append_nil, term.map_chars_atoms]
  | .next terms term =>
    rw [Expr.atomsOfAll_concat, List.map_append, terms.map_chars_atoms, term.map_chars_atoms,
      runs_append]

theorem Sequence.map_chars_atoms {tokens : List TokenKind} {expr : Expr}
    (derived : Sequence tokens expr) : expr.atoms.map Scope.chars = runs tokens := by
  match derived with
  | .single term => exact term.map_chars_atoms
  | .several terms _ => exact terms.map_chars_atoms

theorem Exclusion.map_chars_atoms {tokens : List TokenKind} {expr : Expr}
    (derived : Exclusion tokens expr) : expr.atoms.map Scope.chars = runs tokens := by
  match derived with
  | .sequence sequence => exact sequence.map_chars_atoms
  | .minus kept excluded =>
    rw [Expr.atoms, List.map_append, kept.map_chars_atoms, excluded.map_chars_atoms, runs_append,
      runs_cons_of_none rfl]

theorem Alternatives.map_chars_atoms {grouped : Bool} {tokens : List TokenKind}
    {alternatives : List Expr} (derived : Alternatives grouped tokens alternatives) :
    (Expr.atomsOfAll alternatives).map Scope.chars = runs tokens := by
  match derived with
  | .first alternative =>
    rw [Expr.atomsOfAll, Expr.atomsOfAll, List.append_nil, alternative.map_chars_atoms]
  | .next alternatives separator alternative =>
    rw [Expr.atomsOfAll_concat, List.map_append, alternatives.map_chars_atoms,
      alternative.map_chars_atoms, runs_append, runs_cons_of_none separator.run?]

end

theorem Whole.map_chars_atoms {tokens : List TokenKind} {expr : Expr}
    (derived : Whole tokens expr) : expr.atoms.map Scope.chars = runs tokens := by
  cases derived with
  | exclusion exclusion => exact exclusion.map_chars_atoms
  | union alternatives _ => exact alternatives.map_chars_atoms

end Grammar

/-- The maximal runs of segment characters and dots in a text, less the minus signs that they begin
with. -/
def atomRuns (text : List Char) : List (List Char) :=
  ((text.splitOnP (!Token.isRunChar ·)).map (·.dropWhile (· = '-'))).filter (!·.isEmpty)

theorem atomRuns_append_cons (text : List Char) {c : Char} (outside : ¬ Token.isRunChar c)
    (rest : List Char) : atomRuns (text ++ c :: rest) = atomRuns text ++ atomRuns rest := by
  have separates : (!Token.isRunChar c) = true := by simpa using outside
  rw [atomRuns, List.splitOnP_append_cons (p := (!Token.isRunChar ·)) text rest separates,
    List.map_append, List.filter_append]
  rfl

theorem atomRuns_cons {c : Char} (outside : ¬ Token.isRunChar c) (rest : List Char) :
    atomRuns (c :: rest) = atomRuns rest :=
  atomRuns_append_cons [] outside rest

theorem atomRuns_minus (rest : List Char) : atomRuns ('-' :: rest) = atomRuns rest := by
  obtain ⟨first, others, pieces⟩ :=
    List.exists_cons_of_ne_nil (List.splitOnP_ne_nil (!Token.isRunChar ·) rest)
  have joined : ('-' :: rest).splitOnP (!Token.isRunChar ·) = ('-' :: first) :: others := by
    rw [List.splitOnP_cons_eq_if_modifyHead, if_neg (by decide), pieces, List.modifyHead_cons]
  rw [atomRuns, joined, atomRuns, pieces, List.map_cons, List.map_cons,
    List.dropWhile_cons_of_pos (by decide)]

theorem atomRuns_run {run : List Char} (filled : run ≠ []) (inside : ∀ c ∈ run, Token.isRunChar c)
    (begins : run.head? ≠ some '-') : atomRuns run = [run] := by
  have whole : run.splitOnP (!Token.isRunChar ·) = [run] :=
    List.splitOnP_eq_singleton fun c member => by simp [inside c member]
  obtain ⟨c, rest, rfl⟩ := List.exists_cons_of_ne_nil filled
  have notMinus : c ≠ '-' := fun same => begins (congrArg some same)
  rw [atomRuns, whole, List.map_singleton, List.dropWhile_cons_of_neg (by simpa using notMinus)]
  rfl

theorem atomRuns_of_lexes {text : List Char} {tokens : List TokenKind}
    (lexes : Lexes text tokens) : atomRuns text = TokenKind.runs tokens := by
  induction lexes with
  | done => rfl
  | @blank c rest tokens blank _ ih =>
    have outside : ¬ Token.isRunChar c := fun inside =>
      Bool.false_ne_true ((Token.not_isBlank_of_isRunChar inside).symm.trans blank)
    rw [atomRuns_cons outside, ih]
  | @sign c kind rest tokens sign _ ih =>
    rw [TokenKind.runs_cons_of_none (TokenKind.run?_of_ofSign? sign), ← ih]
    by_cases minus : c = '-'
    · rw [minus, atomRuns_minus]
    · exact atomRuns_cons (Bool.eq_false_iff.mp (Token.not_isRunChar_of_ofSign? sign minus)) rest
  | @atom run rest tokens inside begins segments ends _ ih =>
    have filled : run ≠ [] := by
      rintro rfl
      exact segments [] (by simp) rfl
    have split : atomRuns (run ++ rest) = atomRuns run ++ atomRuns rest := by
      cases rest with
      | nil => exact (congrArg atomRuns (List.append_nil run)).trans (List.append_nil _).symm
      | cons c later =>
        have outside := ends c rfl
        rw [atomRuns_append_cons run outside, atomRuns_cons outside]
    rw [split, atomRuns_run filled inside begins, ih]
    rfl

/-- The atoms of a selector, in the order in which they are visited, are the atoms among the tokens
of its text from left to right, each with the characters that stand there. These are the maximal
runs of segment characters and dots in the text, less the minus signs that they begin with. -/
theorem atoms_as_written {text : String} {selector : Selector}
    (parsed : parse text = .ok selector) :
    (∃ tokens, (∀ others, Lexes text.toList others ↔ others = tokens) ∧
      selector.expr.atoms.map Scope.chars = TokenKind.runs tokens) ∧
    selector.expr.atoms.map Scope.chars = atomRuns text.toList ∧
    ∀ {σ : Type} (action : σ → Scope → σ) (state : σ),
      selector.expr.visit action state = selector.expr.atoms.foldl action state := by
  obtain ⟨tokens, lexes, derived⟩ :=
    (Expr.ofChars_eq_ok_iff _ _).mp ((parse_eq_ok_iff _ _).mp parsed).1
  have written : selector.expr.atoms.map Scope.chars = TokenKind.runs tokens :=
    derived.map_chars_atoms
  refine ⟨⟨tokens, fun others => ?_, written⟩, ?_, ?_⟩
  · constructor
    · intro other
      rw [← Token.kinds_of_lexes other, Token.kinds_of_lexes lexes]
    · rintro rfl
      exact lexes
  · rw [written, atomRuns_of_lexes lexes]
  · exact fun action state => selector.expr.visit_eq_foldl action state

theorem atoms_as_written_around_minus_signs :
    let source : Scope := ⟨[⟨"source".toList, by decide⟩, ⟨"c++".toList, by decide⟩], by decide⟩
    let string : Scope := ⟨[⟨"string".toList, by decide⟩, ⟨"x-y".toList, by decide⟩], by decide⟩
    let quoted : Scope := ⟨[⟨"quoted".toList, by decide⟩], by decide⟩
    let comment : Scope := ⟨[⟨"comment".toList, by decide⟩], by decide⟩
    let embedded : Scope := ⟨[⟨"meta-".toList, by decide⟩], by decide⟩
    let selector : Selector := ⟨"source.c++ (string.x-y -quoted) - comment, meta-".toList,
      .union [.exclusion (.sequence [.atom source,
        .group [.exclusion (.atom string) (.atom quoted)]]) (.atom comment), .atom embedded]⟩
    let runs := ["source.c++".toList, "string.x-y".toList, "quoted".toList, "comment".toList,
      "meta-".toList]
    parse "source.c++ (string.x-y -quoted) - comment, meta-" = .ok selector ∧
      atomRuns selector.source = runs ∧ selector.expr.atoms.map Scope.chars = runs ∧
      selector.expr.visit (fun texts atom => texts ++ [atom.chars]) [] = runs := by
  intro source string quoted comment embedded selector runs
  have parsed : parse "source.c++ (string.x-y -quoted) - comment, meta-" = .ok selector := by cbv
  have inText : atomRuns selector.source = runs := by decide +kernel
  obtain ⟨_, written, visited⟩ := atoms_as_written parsed
  have collected := visited (fun texts atom => texts ++ [atom.chars]) []
  exact ⟨parsed, inText, written.trans inText, by rw [collected]; rfl⟩

end ScopeCascade.Selector
