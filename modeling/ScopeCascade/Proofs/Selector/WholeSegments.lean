import ScopeCascade.Proofs.Scope.Reading
import ScopeCascade.Proofs.Selector.Atoms

/-! Segments compared as texts. An atom matches a scope if the scope's text is that of the atom, or
begins with it and a dot. No atom ends inside a segment of a scope that it matches, since neither of
them has dots inside its segments. -/
namespace ScopeCascade

theorem Text.intercalate_append (separator : List Char) {pieces others : List (List Char)}
    (filled : pieces ≠ []) (otherFilled : others ≠ []) :
    separator.intercalate (pieces ++ others) =
      separator.intercalate pieces ++ separator ++ separator.intercalate others := by
  induction pieces with
  | nil => contradiction
  | cons piece rest ih =>
    by_cases single : rest = []
    · rw [single, List.singleton_append, List.intercalate_cons_of_ne_nil otherFilled,
        List.intercalate_singleton]
    · have several : rest ++ others ≠ [] := List.append_ne_nil_of_left_ne_nil single others
      rw [List.cons_append, List.intercalate_cons_of_ne_nil several, ih single,
        List.intercalate_cons_of_ne_nil single]
      simp only [List.append_assoc]

/-- The pieces of one text are the first pieces of another just if the other is the same text, or
goes on with a separator. -/
theorem Text.splitOn_prefix_iff (separator : Char) (beginning text : List Char) :
    beginning.splitOn separator <+: text.splitOn separator ↔
      text = beginning ∨ beginning ++ [separator] <+: text := by
  constructor
  · rintro ⟨behind, pieces⟩
    have joined : [separator].intercalate (beginning.splitOn separator ++ behind) = text := by
      rw [pieces, List.intercalate_splitOn]
    -- Only if there are pieces behind is there a separator to join them with.
    by_cases nothing : behind = []
    · rw [nothing, List.append_nil, List.intercalate_splitOn] at joined
      exact .inl joined.symm
    · rw [intercalate_append _ (List.splitOn_ne_nil separator beginning) nothing,
        List.intercalate_splitOn] at joined
      exact .inr ⟨_, joined⟩
  · rintro (rfl | ⟨behind, rfl⟩)
    · exact List.prefix_refl _
    · rw [List.append_assoc, List.singleton_append, List.splitOn_append_cons_self]
      exact List.prefix_append _ _

namespace Scope

theorem toList_name (scope : Scope) : scope.name.toList = scope.chars := String.toList_ofList

theorem parse_eq_ok_iff (name : String) (scope : Scope) :
    parse name = .ok scope ↔ name = scope.name := by
  rw [parse, ofChars_eq_ok_iff, ← toList_name, String.toList_inj, eq_comm]

/-- Scopes are compared by the characters of their segments. -/
theorem startsWith_segments (scope other : Scope) :
    other.startsWith (scope.segments.map Subtype.val) = scope.isPrefixOf other := by
  rw [startsWith, isPrefixOf, Bool.eq_iff_iff, List.isPrefixOf_iff_prefix,
    List.isPrefixOf_iff_prefix, List.prefix_map_iff_of_injective Subtype.val_injective]

theorem isPrefixOf_iff_pieces (scope other : Scope) :
    scope.isPrefixOf other ↔ scope.chars.splitOn '.' <+: other.chars.splitOn '.' := by
  rw [← startsWith_segments, startsWith, List.isPrefixOf_iff_prefix, splitOn_chars, splitOn_chars]

theorem isPrefixOf_iff_chars (scope other : Scope) :
    scope.isPrefixOf other ↔ other.chars = scope.chars ∨ scope.chars ++ ['.'] <+: other.chars := by
  rw [isPrefixOf_iff_pieces, Text.splitOn_prefix_iff]

theorem isPrefixOf_iff_name (scope other : Scope) :
    scope.isPrefixOf other ↔
      other.name = scope.name ∨ other.name.startsWith (scope.name ++ ".") := by
  rw [isPrefixOf_iff_chars, String.startsWith_string_iff, String.toList_append, ← String.toList_inj,
    toList_name, toList_name]
  rfl

theorem isPrefixOf_trans {scope between other : Scope} (first : scope.isPrefixOf between)
    (second : between.isPrefixOf other) : scope.isPrefixOf other := by
  rw [isPrefixOf_iff_pieces] at first second ⊢
  exact first.trans second

/-- Where the other text goes on, it has to go on with a dot: any other character would belong to
the last segment. -/
theorem isPrefixOf_iff_dot {scope other : Scope} {c : Char} {behind : List Char}
    (text : other.chars = scope.chars ++ c :: behind) : scope.isPrefixOf other ↔ c = '.' := by
  have longer : other.chars ≠ scope.chars := by
    intro same
    rw [text] at same
    exact List.cons_ne_nil c behind (List.append_right_eq_self.mp same)
  rw [isPrefixOf_iff_chars, or_iff_right longer, text, List.prefix_append_right_inj]
  simp [eq_comm]

end Scope

namespace Selector

theorem mem_atomRuns {text : String} {selector : Selector} (parsed : parse text = .ok selector)
    {atom : Scope} (listed : atom ∈ selector.expr.atoms) : atom.chars ∈ atomRuns text.toList := by
  obtain ⟨tokens, lexes, derived⟩ :=
    (Expr.ofChars_eq_ok_iff _ _).mp ((parse_eq_ok_iff _ _).mp parsed).1
  rw [atomRuns_of_lexes lexes, ← derived.map_chars_atoms]
  exact List.mem_map_of_mem listed

/-- An atom of a selector, as it is written there, matches the scope of a name if and only if the
name is the atom's text or begins with it and a dot; comparing the pieces between the dots one by
one comes to the same. So whatever an atom matches is matched by all atoms that match the scope of
its own text, and where the name continues the atom's text, a dot has to come next. -/
theorem atoms_compared_by_text {text name : String} {selector : Selector} {atom scope : Scope}
    (parsed : parse text = .ok selector) (listed : atom ∈ selector.expr.atoms)
    (read : Scope.parse name = .ok scope) :
    atom.chars ∈ atomRuns text.toList ∧
    (atom.isPrefixOf scope ↔ name = atom.name ∨ name.startsWith (atom.name ++ ".")) ∧
    (atom.isPrefixOf scope ↔ (atom.chars.splitOn '.').isPrefixOf (name.toList.splitOn '.')) ∧
    (∀ between : Scope, ∃ named, Scope.parse between.name = .ok named ∧
      (atom.isPrefixOf named → between.isPrefixOf scope → atom.isPrefixOf scope)) ∧
    ∀ c behind, name.toList = atom.chars ++ c :: behind → (atom.isPrefixOf scope ↔ c = '.') := by
  obtain rfl := (Scope.parse_eq_ok_iff name scope).mp read
  refine ⟨mem_atomRuns parsed listed, atom.isPrefixOf_iff_name scope, ?_, ?_, ?_⟩
  · rw [atom.isPrefixOf_iff_pieces, scope.toList_name, List.isPrefixOf_iff_prefix]
  · exact fun between =>
      ⟨between, (Scope.parse_eq_ok_iff _ _).mpr rfl, Scope.isPrefixOf_trans⟩
  · rw [scope.toList_name]
    exact fun c behind => Scope.isPrefixOf_iff_dot

theorem atoms_compared_by_text_in_embedded_source :
    let atom : Scope := ⟨[⟨"source".toList, by decide⟩, ⟨"c++".toList, by decide⟩], by decide⟩
    let comment : Scope := ⟨[⟨"comment".toList, by decide⟩], by decide⟩
    let embedded : Scope := ⟨[⟨"source".toList, by decide⟩, ⟨"c++".toList, by decide⟩,
      ⟨"embedded".toList, by decide⟩], by decide⟩
    let revised : Scope := ⟨[⟨"source".toList, by decide⟩, ⟨"c++11".toList, by decide⟩], by decide⟩
    let selector : Selector := ⟨"(comment, source.c++) - comment".toList,
      .exclusion (.group [.atom comment, .atom atom]) (.atom comment)⟩
    parse "(comment, source.c++) - comment" = .ok selector ∧ atom ∈ selector.expr.atoms ∧
      Scope.parse "source.c++.embedded" = .ok embedded ∧ Scope.parse "source.c++11" = .ok revised ∧
      "source.c++".toList ∈ atomRuns selector.source ∧ atom.isPrefixOf embedded ∧
      ¬ atom.isPrefixOf revised ∧ "source.c++.embedded".startsWith (atom.name ++ ".") := by
  intro atom comment embedded revised selector
  have parsed : parse "(comment, source.c++) - comment" = .ok selector := by cbv
  have listed : atom ∈ selector.expr.atoms := by decide
  have read : Scope.parse "source.c++.embedded" = .ok embedded := by cbv
  have readRevised : Scope.parse "source.c++11" = .ok revised := by cbv
  obtain ⟨written, byText, _, _, next⟩ := atoms_compared_by_text parsed listed read
  obtain ⟨_, _, _, _, nextRevised⟩ := atoms_compared_by_text parsed listed readRevised
  have begins : atom.isPrefixOf embedded := (next '.' "embedded".toList rfl).mpr rfl
  refine ⟨parsed, listed, read, readRevised, written, begins, ?_, ?_⟩
  · rw [nextRevised '1' ['1'] rfl]
    decide
  · exact (byText.mp begins).resolve_left (by decide)

end Selector

end ScopeCascade
