import ScopeCascade.Proofs.Scope.Reading
import ScopeCascade.Scope.Path
import Mathlib.Data.Set.List

/-! Texts of paths. A text is a path if it has words and all of them are scopes, and a path's own
text is read as the same path. -/
namespace ScopeCascade.ScopePath

theorem mapM_ofChars_eq_ok_iff (words : List (List Char)) (scopes : List Scope) :
    words.mapM Scope.ofChars = .ok scopes ↔ scopes.map Scope.chars = words := by
  induction words generalizing scopes with
  | nil => cases scopes <;> simp [pure, Except.pure]
  | cons word rest ih =>
    rw [List.mapM_cons, List.map_eq_cons_iff]
    constructor
    · intro read
      cases first : Scope.ofChars word with
      | error _ => simp [first, bind, Except.bind] at read
      | ok scope =>
        cases others : rest.mapM Scope.ofChars with
        | error _ => simp [first, others, bind, Except.bind] at read
        | ok later =>
          simp only [first, others, bind, Except.bind, pure, Except.pure, Except.ok.injEq] at read
          exact ⟨scope, later, read.symm, (Scope.ofChars_eq_ok_iff word scope).mp first,
            (ih later).mp others⟩
    · rintro ⟨scope, later, rfl, first, others⟩
      rw [(Scope.ofChars_eq_ok_iff word scope).mpr first, (ih later).mpr others]
      rfl

theorem ofScopes_eq_ok_iff (scopes : List Scope) (path : ScopePath) :
    ofScopes scopes = .ok path ↔ path.scopes = scopes := by
  obtain ⟨held, nonempty⟩ := path
  cases scopes with
  | nil => exact iff_of_false nofun nonempty
  | cons scope rest => simp [ofScopes, eq_comm]

theorem words_chars (path : ScopePath) : Text.words path.chars = path.scopes.map Scope.chars :=
  Text.words_intercalate (List.forall_mem_map.mpr fun scope _ =>
    ⟨scope.chars_ne_nil, scope.not_isBlank_of_mem_chars⟩)

/-- A text is read as the path whose scopes are its words. -/
theorem ofChars_eq_ok_iff (text : List Char) (path : ScopePath) :
    ofChars text = .ok path ↔ path.scopes.map Scope.chars = Text.words text := by
  rw [← mapM_ofChars_eq_ok_iff, ofChars]
  cases (Text.words text).mapM Scope.ofChars with
  | error _ => exact iff_of_false nofun nofun
  | ok scopes =>
    rw [Except.ok.injEq, eq_comm (a := scopes)]
    exact ofScopes_eq_ok_iff scopes path

/-- A text is a path if it has words and all of them are scopes. -/
theorem exists_ofChars_iff (text : List Char) :
    (∃ path, ofChars text = .ok path) ↔
      Text.words text ≠ [] ∧ ∀ word ∈ Text.words text, Scope.IsName word := by
  simp only [ofChars_eq_ok_iff]
  constructor
  · rintro ⟨path, words⟩
    rw [← words]
    refine ⟨mt List.map_eq_nil_iff.mp path.scopes_ne_nil, List.forall_mem_map.mpr ?_⟩
    exact fun scope _ => (Scope.exists_chars_iff _).mp ⟨scope, rfl⟩
  · rintro ⟨nonempty, names⟩
    have named : Text.words text ∈ Set.range (List.map Scope.chars) := by
      rw [Set.range_list_map]
      exact fun word member => (Scope.exists_chars_iff word).mpr (names word member)
    obtain ⟨scopes, same⟩ := named
    exact ⟨⟨scopes, fun none => nonempty (by rw [← same, none, List.map_nil])⟩, same⟩

/-- A text is a path just if it has words and all of them consist of segments with dots between
them. Then its scopes are the words in order, and its text has one space between each two of them.
Whichever way a path was made, its text has its scopes for words, and is read as the same path. -/
theorem path_text_round_trips (text : String) (path : ScopePath) :
    ((∃ path, parse text = .ok path) ↔
        Text.words text.toList ≠ [] ∧ ∀ word ∈ Text.words text.toList, Scope.IsName word) ∧
      (parse text = .ok path ↔
        path.scopes.map Scope.chars = Text.words text.toList ∧
          path.text = String.ofList ([' '].intercalate (Text.words text.toList))) ∧
      parse path.text = .ok path ∧
      (Text.words path.text.toList).length = path.depth ∧
      (Text.words path.text.toList).map (·.splitOn '.') =
        path.scopes.map fun scope => scope.segments.map Subtype.val := by
  have own : Text.words path.text.toList = path.scopes.map Scope.chars := by
    rw [ScopePath.text, String.toList_ofList, words_chars]
  refine ⟨exists_ofChars_iff text.toList, ?_, ?_, ?_, ?_⟩
  · rw [parse, ofChars_eq_ok_iff]
    refine (and_iff_left_of_imp fun words => ?_).symm
    rw [← words, ScopePath.text, ScopePath.chars]
  · rw [parse, ofChars_eq_ok_iff, own]
  · rw [own, List.length_map, depth]
  · rw [own, List.map_map]
    exact List.map_congr_left fun scope _ => scope.splitOn_chars

example :
    (parse "\u2003source.c++\t meta.tag-name \n").toOption.map ScopePath.text =
      some "source.c++ meta.tag-name" := by
  decide +kernel

end ScopeCascade.ScopePath
