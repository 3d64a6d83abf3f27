import ScopeCascade.Proofs.Selector.Parsing
import ScopeCascade.Proofs.Selector.Placement

/-! Parentheses around a selector. Its tokens are read inside a group as they are outside, so both
parentheses make a group of its alternatives, and one alone is reported at its place. -/
namespace ScopeCascade.Selector

namespace Parser

/-- Wherever the tokens of a selector stand, the parser reads its alternatives. -/
theorem reads_selector {text : List Char} {expr : Expr} (accepted : Expr.ofChars text = .ok expr)
    {tokens : List Token} (same : tokens.map Token.kind = Token.kinds text)
    (enclosing : List (Nat × Level)) :
    ∃ (after : Level) (last : Expr), after.exclusion? = some last ∧
      after.all last = expr.alternatives ∧ Reads tokens ⟨{}, enclosing⟩ ⟨after, enclosing⟩ := by
  obtain ⟨kinds, lexes, derived⟩ := (Expr.ofChars_eq_ok_iff text expr).mp accepted
  rw [Token.kinds_of_lexes lexes] at same
  exact reads_alternatives derived.alternatives.1 same enclosing nofun

theorem reads_opened {text : List Char} {expr : Expr} (accepted : Expr.ofChars text = .ok expr) :
    ∃ (after : Level) (last : Expr), after.exclusion? = some last ∧
      after.all last = expr.alternatives ∧
      Reads (Token.ofChars ('(' :: text)) {} ⟨after, [(0, {})]⟩ := by
  obtain ⟨after, last, ends, all, reads⟩ :=
    reads_selector accepted (Token.map_kind_shift ('('.utf8Size) (Token.ofChars text)) [(0, {})]
  rw [Token.ofChars_sign rfl]
  exact ⟨after, last, ends, all, Reads.cons .opening reads⟩

end Parser

theorem Token.ofChars_closing (text : List Char) :
    ofChars (text ++ [')']) = ofChars text ++ [⟨.closing, Text.byteLength text⟩] := by
  rw [ofChars_append text (by rintro c ⟨⟩; decide)]
  rfl

namespace Expr

variable {text : List Char} {expr : Expr}

theorem ofChars_parenthesized (accepted : ofChars text = .ok expr) :
    ofChars ('(' :: text ++ [')']) = .ok (.group expr.alternatives) := by
  obtain ⟨after, last, ends, all, reads⟩ := Parser.reads_opened accepted
  have closed : Parser.Reads (Token.ofChars ('(' :: text ++ [')'])) {}
      ⟨Parser.Level.push {} (.group expr.alternatives), []⟩ := by
    rw [Token.ofChars_closing, ← all]
    exact reads.append (Parser.Reads.token (.closing ends))
  rw [ofChars_eq_ok_iff_run, closed.run_eq]
  rfl

theorem ofChars_unclosed (accepted : ofChars text = .ok expr) :
    ofChars ('(' :: text) = .error (.ofKind ('(' :: text) .unclosedGroup 0) := by
  obtain ⟨after, last, ends, _, reads⟩ := Parser.reads_opened accepted
  refine (ofChars_eq_error_iff_run _ _).mpr ⟨(.unclosedGroup, 0), ?_, rfl⟩
  rw [reads.run_eq, Parser.finish]
  simp only [ends]

theorem ofChars_unmatched (accepted : ofChars text = .ok expr) :
    ofChars (text ++ [')']) =
      .error (.ofKind (text ++ [')']) .unmatchedParen (Text.byteLength text)) := by
  obtain ⟨after, last, ends, _, reads⟩ := Parser.reads_selector accepted rfl []
  refine (ofChars_eq_error_iff_run _ _).mpr ⟨(.unmatchedParen, Text.byteLength text), ?_, rfl⟩
  rw [Token.ofChars_closing, reads, Parser.run_cons, Parser.step]
  simp only [ends]

end Expr

/-- A selector between parentheses is the group of its alternatives, and has no white space to trim.
With the opening one alone it is rejected at that one, and with the closing one alone at the closing
one. -/
theorem parse_parenthesized (text : String) (selector : Selector)
    (parsed : parse text = .ok selector) :
    parse ("(" ++ text ++ ")") =
        .ok ⟨("(" ++ text ++ ")").toList, .group selector.expr.alternatives⟩ ∧
      parse ("(" ++ text) = .error (.ofKind ("(" ++ text).toList .unclosedGroup 0) ∧
      parse (text ++ ")") = .error
        (.ofKind (text ++ ")").toList .unmatchedParen (Text.byteLength text.toList)) := by
  have accepted := ((parse_eq_ok_iff _ _).mp parsed).1
  rw [parse_eq_ok_iff, parse_eq_error_iff, parse_eq_error_iff, String.toList_append,
    String.toList_append, String.toList_append]
  refine ⟨⟨?_, ?_⟩, ?_, ?_⟩
  · exact Expr.ofChars_parenthesized accepted
  · exact (Text.trim_of_visible (by decide) (by decide) text.toList).symm
  · exact Expr.ofChars_unclosed accepted
  · exact Expr.ofChars_unmatched accepted

theorem parse_parenthesized_union :
    let a : Expr := .atom ⟨[⟨['a'], by decide⟩], nofun⟩
    let b : Expr := .atom ⟨[⟨['b'], by decide⟩], nofun⟩
    parse "(a | b), a -b " =
        .ok ⟨"(a | b), a -b".toList, .union [.group [a, b], .exclusion a b]⟩ ∧
      parse ("(" ++ "(a | b), a -b " ++ ")") =
        .ok ⟨"((a | b), a -b )".toList, .group [.group [a, b], .exclusion a b]⟩ ∧
      parse ("(" ++ "(a | b), a -b ") = .error ⟨.unclosedGroup, 0, "((a".toList⟩ ∧
      parse ("(a | b), a -b " ++ ")") = .error ⟨.unmatchedParen, 14, ")".toList⟩ := by
  intro a b
  let selector : Selector := ⟨"(a | b), a -b".toList, .union [.group [a, b], .exclusion a b]⟩
  have parsed : parse "(a | b), a -b " = .ok selector := rfl
  obtain ⟨grouped, unclosed, unmatched⟩ := parse_parenthesized "(a | b), a -b " selector parsed
  exact ⟨parsed, grouped, unclosed, unmatched⟩

end ScopeCascade.Selector
