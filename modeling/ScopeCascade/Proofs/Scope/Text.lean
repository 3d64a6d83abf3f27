import ScopeCascade.Proofs.Text.Words
import ScopeCascade.Scope.Basic

/-! The text of a scope: it has the characters of segments and dots, and its segments are what
stands between the dots. -/
namespace ScopeCascade

theorem isSegment_iff (piece : List Char) :
    isSegment piece = true ↔ piece ≠ [] ∧ ∀ c ∈ piece, isSegmentChar c := by
  simp [isSegment]

theorem toNat_of_isSegmentChar {c : Char} (inside : isSegmentChar c) :
    35 ≤ c.toNat ∧ c.toNat ≤ 122 := by
  have kinds : c.isAlphanum ∨ c = '_' ∨ c = '+' ∨ c = '#' ∨ c = '-' := by
    simpa [isSegmentChar, or_assoc] using inside
  rcases kinds with alphanum | rfl | rfl | rfl | rfl
  · delta Char.isAlphanum Char.isAlpha Char.isUpper Char.isLower Char.isDigit at alphanum
    simp only [Bool.or_eq_true, Bool.and_eq_true, decide_eq_true_eq, ge_iff_le,
      UInt32.le_iff_toNat_le] at alphanum
    simp at alphanum
    omega
  all_goals decide

theorem not_isBlank_of_isSegmentChar {c : Char} (inside : isSegmentChar c) :
    Text.isBlank c = false := by
  obtain ⟨low, high⟩ := toNat_of_isSegmentChar inside
  exact Bool.eq_false_iff.mpr (Text.not_isBlank_of_visible_code (by omega) (by omega))

namespace Scope

theorem splitOn_chars (scope : Scope) :
    scope.chars.splitOn '.' = scope.segments.map Subtype.val := by
  apply List.splitOn_intercalate
  · intro piece member dot
    obtain ⟨segment, _, rfl⟩ := List.mem_map.mp member
    have inside := ((isSegment_iff _).mp segment.property).2 '.' dot
    contradiction
  · exact fun empty => scope.segments_ne_nil (List.map_eq_nil_iff.mp empty)

theorem ne_nil_of_mem_splitOn_chars (scope : Scope) :
    ∀ piece ∈ scope.chars.splitOn '.', piece ≠ [] := by
  rw [splitOn_chars]
  exact List.forall_mem_map.mpr fun segment _ => ((isSegment_iff _).mp segment.property).1

theorem chars_ne_nil (scope : Scope) : scope.chars ≠ [] := by
  intro empty
  have filled := scope.ne_nil_of_mem_splitOn_chars
  rw [empty] at filled
  exact filled [] (by simp) rfl

theorem mem_chars (scope : Scope) : ∀ c ∈ scope.chars, isSegmentChar c ∨ c = '.' := by
  unfold chars
  induction scope.segments with
  | nil => simp
  | cons segment rest ih =>
    have first := ((isSegment_iff _).mp segment.property).2
    intro c member
    cases rest with
    | nil => exact .inl (first c (by simpa using member))
    | cons next later =>
      rw [List.map_cons, List.map_cons, List.intercalate_cons_cons, List.append_assoc,
        List.mem_append, List.mem_append, List.mem_singleton] at member
      rcases member with own | dot | further
      · exact .inl (first c own)
      · exact .inr dot
      · exact ih c further

end Scope

end ScopeCascade
