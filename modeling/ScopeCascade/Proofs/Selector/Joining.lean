import ScopeCascade.Proofs.Selector.Parsing
import ScopeCascade.Proofs.Selector.Placement
import ScopeCascade.Proofs.Selector.Rank

/-! Selectors with commas between them are one selector, which matches as any of them does. No token
spans a comma, so the tokens of the parts stand side by side in the whole. -/
namespace ScopeCascade.Selector

theorem Lexes.append {text more : List Char} {tokens others : List TokenKind}
    (first : Lexes text tokens) (last : Lexes more others)
    (ends : ∀ c, more.head? = some c → ¬ Token.isRunChar c) :
    Lexes (text ++ more) (tokens ++ others) := by
  obtain ⟨rfl, proper⟩ := (Token.lexes_iff text tokens).mp first
  obtain ⟨rfl, properLast⟩ := (Token.lexes_iff more others).mp last
  exact (Token.lexes_iff _ _).mpr
    ⟨(Token.kinds_append text ends).symm, List.forall_mem_append.mpr ⟨proper, properLast⟩⟩

/-- The text has these alternatives, with commas between them. -/
def Lists (text : List Char) (alternatives : List Expr) : Prop :=
  ∃ tokens, Lexes text tokens ∧ Grammar.Alternatives false tokens alternatives

theorem lists_iff_ofChars (text : List Char) (expr : Expr) :
    (∃ alternatives, Lists text alternatives ∧ Expr.ofAlternatives alternatives = expr) ↔
      Expr.ofChars text = .ok expr := by
  rw [Expr.ofChars_eq_ok_iff]
  constructor
  · rintro ⟨alternatives, ⟨tokens, lexes, derived⟩, rfl⟩
    exact ⟨tokens, lexes, derived.whole⟩
  · rintro ⟨tokens, lexes, derived⟩
    exact ⟨expr.alternatives, ⟨tokens, lexes, derived.alternatives.1⟩, derived.alternatives.2⟩

theorem Lists.join {text more : List Char} {alternatives others : List Expr}
    (first : Lists text alternatives) (last : Lists more others) :
    Lists (text ++ [',', ' '] ++ more) (alternatives ++ others) := by
  obtain ⟨tokens, lexes, derived⟩ := first
  obtain ⟨kinds, lexesLast, derivedLast⟩ := last
  refine ⟨tokens ++ .comma :: kinds, ?_, derived.append .comma derivedLast⟩
  rw [List.append_assoc]
  apply lexes.append
  · exact .sign rfl (.blank (by decide) lexesLast)
  · intro c next
    cases next
    decide

theorem Expr.matches_ofAlternatives (path : List Scope) (alternatives : List Expr)
    (limit start : Nat) (atoms : List AtomMatch) :
    (ofAlternatives alternatives).Matches path limit start atoms ↔
      ∃ expr ∈ alternatives, expr.Matches path limit start atoms := by
  unfold ofAlternatives
  split
  · simp
  · rw [Expr.Matches, Expr.readings_eq_map]
    constructor
    · rintro ⟨reading, listed, matched⟩
      obtain ⟨expr, member, rfl⟩ := List.mem_map.mp listed
      exact ⟨expr, member, matched⟩
    · rintro ⟨expr, member, matched⟩
      exact ⟨_, List.mem_map_of_mem member, matched⟩

/-- Texts that parse have alternatives, those of all of them in one list where commas join them. -/
theorem lists_intercalate {first : String} {rest : List String}
    (each : ∀ text ∈ first :: rest, ∃ selector, parse text = .ok selector) :
    ∃ alternatives, Lists ([',', ' '].intercalate ((first :: rest).map String.toList))
        alternatives ∧
      ∀ path limit start atoms,
        (∃ expr ∈ alternatives, expr.Matches path limit start atoms) ↔
          ∃ text ∈ first :: rest, ∃ selector, parse text = .ok selector ∧
            selector.expr.Matches path limit start atoms := by
  obtain ⟨⟨selector, parsed⟩, later⟩ := List.forall_mem_cons.mp each
  obtain ⟨own, lists, same⟩ := (lists_iff_ofChars _ _).mpr ((parse_eq_ok_iff _ _).mp parsed).1
  have matchesOwn (path : List Scope) (limit start : Nat) (atoms : List AtomMatch) :
      (∃ expr ∈ own, expr.Matches path limit start atoms) ↔ ∃ selector,
        parse first = .ok selector ∧ selector.expr.Matches path limit start atoms := by
    rw [← Expr.matches_ofAlternatives, same]
    simp [parsed]
  cases rest with
  | nil =>
    refine ⟨own, by simpa using lists, ?_⟩
    simpa using matchesOwn
  | cons next rest =>
    obtain ⟨others, listsOthers, matchesOthers⟩ := lists_intercalate later
    refine ⟨own ++ others, ?_, ?_⟩
    · rw [List.map_cons, List.map_cons, List.intercalate_cons_cons]
      exact lists.join listsOthers
    · intro path limit start atoms
      have split := or_congr (matchesOwn path limit start atoms)
        (matchesOthers path limit start atoms)
      simpa [or_and_right, exists_or] using split

/-- Texts that parse to selectors, with commas between them, parse to one selector, which reaches
what any of them reaches. -/
theorem parse_joined {first : String} {rest : List String}
    (each : ∀ text ∈ first :: rest, ∃ selector, parse text = .ok selector) :
    ∃ joined, parse (", ".intercalate (first :: rest)) = .ok joined ∧ ∀ path specificity,
      joined.Reaches path specificity ↔
        ∃ text ∈ first :: rest, ∃ selector, parse text = .ok selector ∧
          selector.Reaches path specificity := by
  obtain ⟨alternatives, lists, matching⟩ := lists_intercalate each
  let joined : Selector :=
    ⟨Text.trim (", ".intercalate (first :: rest)).toList, Expr.ofAlternatives alternatives⟩
  refine ⟨joined, (parse_eq_ok_iff _ _).mpr ⟨?_, rfl⟩, ?_⟩
  · rw [String.toList_intercalate]
    exact (lists_iff_ofChars _ _).mp ⟨alternatives, lists, rfl⟩
  · intro path specificity
    constructor
    · rintro ⟨start, atoms, matched, rfl⟩
      rw [Expr.matches_ofAlternatives, matching] at matched
      obtain ⟨text, member, selector, parsed, matched⟩ := matched
      exact ⟨text, member, selector, parsed, start, atoms, matched, rfl⟩
    · rintro ⟨text, member, selector, parsed, start, atoms, matched, rfl⟩
      refine ⟨start, atoms, ?_, rfl⟩
      rw [Expr.matches_ofAlternatives, matching]
      exact ⟨text, member, selector, parsed, matched⟩

end ScopeCascade.Selector
