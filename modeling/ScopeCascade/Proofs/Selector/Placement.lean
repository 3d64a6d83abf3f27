import ScopeCascade.Proofs.Selector.Lexing
import ScopeCascade.Proofs.Text.Words

/-! Tokens at their places. Texts side by side have the tokens of both, unless a run goes on across
the border, and white space has none. -/
namespace ScopeCascade.Selector

theorem TokenKind.visible_of_standsBefore {kind : TokenKind} {rest : List Char}
    (stands : kind.StandsBefore rest) :
    ∃ c more, kind.chars = c :: more ∧ ¬ Text.isBlank c := by
  cases kind with
  | atom run =>
    obtain ⟨c, more, rfl⟩ := List.exists_cons_of_ne_nil stands.1
    have inside := Token.not_isBlank_of_isRunChar (stands.2.1 c List.mem_cons_self)
    exact ⟨c, more, rfl, Bool.eq_false_iff.mp inside⟩
  | stray c => exact ⟨c, [], rfl, stands.1⟩
  | _ => exact ⟨_, [], rfl, by decide⟩

namespace Token.Placed

variable {position : Nat} {text more : List Char} {tokens others : List Token}

theorem position_le (placed : Placed position text tokens) :
    ∀ token ∈ tokens, position ≤ token.position := by
  induction placed with
  | done => simp
  | blank _ _ ih => exact fun token member => Nat.le_trans (Nat.le_add_right _ _) (ih token member)
  | token _ _ ih =>
    refine List.forall_mem_cons.mpr ⟨Nat.le_refl _, fun token member => ?_⟩
    exact Nat.le_trans (Nat.le_add_right _ _) (ih token member)

/-- A token at the start of the text is what the text starts with. -/
theorem head {kind : TokenKind} (placed : Placed position text (⟨kind, position⟩ :: tokens)) :
    ∃ rest, text = kind.chars ++ rest ∧ kind.StandsBefore rest := by
  cases placed with
  | @blank _ c _ _ _ later =>
    have farther : position + c.utf8Size ≤ position := later.position_le _ List.mem_cons_self
    have positive := c.utf8Size_pos
    omega
  | token stands _ => exact ⟨_, rfl, stands⟩

theorem append (first : Placed position text tokens)
    (last : Placed (position + Text.byteLength text) more others)
    (ends : ∀ c, more.head? = some c → ¬ isRunChar c) :
    Placed position (text ++ more) (tokens ++ others) := by
  induction first with
  | done => exact last
  | blank blank _ ih =>
    rw [Text.byteLength_cons, ← Nat.add_assoc] at last
    exact .blank blank (ih last)
  | @token _ kind rest _ stands _ ih =>
    rw [Text.byteLength_append, ← Nat.add_assoc] at last
    rw [List.append_assoc]
    refine .token ?_ (ih last)
    cases kind with
    | atom run =>
      obtain ⟨filled, inside, begins, stops⟩ := stands
      refine ⟨filled, inside, begins, fun c next => ?_⟩
      -- The last run of the text may only end where the other text does not go on with it.
      cases rest with
      | nil => exact ends c next
      | cons d later => exact stops c next
    | stray c => exact stands
    | _ => trivial

end Token.Placed

namespace Token

theorem ofChars_append (text : List Char) {more : List Char}
    (ends : ∀ c, more.head? = some c → ¬ isRunChar c) :
    ofChars (text ++ more) =
      ofChars text ++ (ofChars more).map (shift (Text.byteLength text)) := by
  rw [← scan_shift]
  refine ((placed_iff 0 _ _).mp ((placed_scan 0 text).append ?_ ends)).symm
  rw [Nat.zero_add]
  exact placed_scan _ more

theorem kinds_append (text : List Char) {more : List Char}
    (ends : ∀ c, more.head? = some c → ¬ isRunChar c) :
    kinds (text ++ more) = kinds text ++ kinds more := by
  rw [kinds, ofChars_append text ends, List.map_append, map_kind_shift, kinds, kinds]

theorem ofChars_blank_append {blanks : List Char} (blank : Text.allBlank blanks)
    (text : List Char) :
    ofChars (blanks ++ text) = (ofChars text).map (shift (Text.byteLength blanks)) := by
  have skipped (position : Nat) :
      scan position none (blanks ++ text) = scan (position + Text.byteLength blanks) none text := by
    rw [Text.allBlank_iff] at blank
    induction blanks generalizing position with
    | nil => rfl
    | cons c rest ih =>
      obtain ⟨first, later⟩ := List.forall_mem_cons.mp blank
      rw [List.cons_append, scan_of_isBlank first, ih later, Text.byteLength_cons, Nat.add_assoc]
  rw [ofChars, skipped, Nat.zero_add, scan_shift]

theorem ofChars_of_allBlank {blanks : List Char} (blank : Text.allBlank blanks) :
    ofChars blanks = [] := by
  have nothing := ofChars_blank_append blank []
  rwa [List.append_nil] at nothing

theorem ofChars_sign {c : Char} {kind : TokenKind} (sign : TokenKind.ofSign? c = some kind)
    (text : List Char) :
    ofChars (c :: text) = ⟨kind, 0⟩ :: (ofChars text).map (shift c.utf8Size) := by
  rw [ofChars, scan_of_sign sign, Nat.zero_add, scan_shift]

end Token

end ScopeCascade.Selector
