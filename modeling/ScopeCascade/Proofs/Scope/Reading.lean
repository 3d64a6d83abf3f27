import ScopeCascade.Proofs.Scope.Text
import ScopeCascade.Proofs.Text.Words
import Mathlib.Logic.Basic

/-! Reading a scope. A text is a scope if it consists of segments with dots between them; otherwise
it fails one of three checks, and the first of them is reported. -/
namespace ScopeCascade

/-- A letter, digit or sign that may stand in a segment. -/
def SegmentLetter (c : Char) : Prop :=
  ('A' ≤ c ∧ c ≤ 'Z') ∨ ('a' ≤ c ∧ c ≤ 'z') ∨ ('0' ≤ c ∧ c ≤ '9') ∨ c ∈ ['_', '+', '#', '-']

theorem isSegmentChar_iff (c : Char) : isSegmentChar c = true ↔ SegmentLetter c := by
  unfold isSegmentChar SegmentLetter
  delta Char.isAlphanum Char.isAlpha Char.isUpper Char.isLower Char.isDigit
  simp only [Bool.or_eq_true, Bool.and_eq_true, decide_eq_true_eq, or_assoc, List.mem_cons,
    List.not_mem_nil, or_false]
  rfl

namespace Scope

/-- Segments with dots between them. -/
def IsName (text : List Char) : Prop :=
  ∃ segments : List (List Char), segments ≠ [] ∧
    (∀ segment ∈ segments, segment ≠ [] ∧ ∀ c ∈ segment, SegmentLetter c) ∧
    ['.'].intercalate segments = text

theorem isSegment_iff_letters (piece : List Char) :
    isSegment piece = true ↔ piece ≠ [] ∧ ∀ c ∈ piece, SegmentLetter c := by
  rw [isSegment_iff]
  simp only [isSegmentChar_iff]

theorem exists_chars_iff (text : List Char) :
    (∃ scope : Scope, scope.chars = text) ↔ IsName text := by
  constructor
  · rintro ⟨scope, rfl⟩
    refine ⟨scope.segments.map Subtype.val, mt List.map_eq_nil_iff.mp scope.segments_ne_nil, ?_,
      rfl⟩
    exact List.forall_mem_map.mpr fun segment _ => (isSegment_iff_letters _).mp segment.property
  · rintro ⟨pieces, nonempty, letters, rfl⟩
    have valid : ∀ piece ∈ pieces, isSegment piece = true := fun piece member =>
      (isSegment_iff_letters piece).mpr (letters piece member)
    have segments : (pieces.pmap Subtype.mk valid).map Subtype.val = pieces := by
      rw [List.map_pmap]
      exact List.pmap_eq_self.mpr fun _ _ => rfl
    refine ⟨⟨pieces.pmap Subtype.mk valid, by simpa using nonempty⟩, ?_⟩
    rw [chars, segments]

theorem ofChars_eq_ok_iff (text : List Char) (scope : Scope) :
    ofChars text = .ok scope ↔ scope.chars = text := by
  have read : ofChars text = .ok scope ↔ ofPieces? (text.splitOn '.') = some scope := by
    unfold ofChars
    split
    · rename_i found is
      rw [is, Except.ok.injEq, Option.some.injEq]
    · rename_i is
      rw [is]
      simp
  rw [read, ofPieces?_eq_some_iff]
  constructor
  · intro pieces
    rw [chars, pieces, List.intercalate_splitOn]
  · rintro rfl
    exact scope.splitOn_chars.symm

theorem not_isBlank_of_mem_chars (scope : Scope) : ∀ c ∈ scope.chars, ¬ Text.isBlank c := by
  intro c member
  rcases scope.mem_chars c member with segment | rfl
  · simp [not_isBlank_of_isSegmentChar segment]
  · decide

/-- The first of three checks that a text fails: white space, empty segments, other characters. -/
inductive Fails (text : List Char) : ScopeError → Prop
  | whitespace {c : Char} : c ∈ text → Text.isBlank c → Fails text (.whitespace text)
  | emptySegment : (∀ c ∈ text, ¬ Text.isBlank c) → [] ∈ text.splitOn '.' →
    Fails text (.emptySegment text)
  | invalidChar {before after : List Char} {c : Char} : text = before ++ c :: after →
    (∀ d ∈ text, ¬ Text.isBlank d) → [] ∉ text.splitOn '.' →
    (∀ d ∈ before, d = '.' ∨ SegmentLetter d) → c ≠ '.' → ¬ SegmentLetter c →
    Fails text (.invalidChar text c)

section Fault

variable {text : List Char}

theorem exists_chars_of_checks (filled : [] ∉ text.splitOn '.')
    (letters : ∀ c ∈ text, c = '.' ∨ SegmentLetter c) : ∃ scope : Scope, scope.chars = text := by
  refine (exists_chars_iff text).mpr ⟨text.splitOn '.', List.splitOn_ne_nil '.' text, ?_,
    List.intercalate_splitOn '.'⟩
  intro piece member
  refine ⟨fun empty => filled (empty ▸ member), fun c inside => ?_⟩
  obtain ⟨present, noDot⟩ := Text.mem_of_mem_splitOnP (· == '.') text piece member c inside
  exact (letters c present).resolve_left fun dot => noDot (beq_iff_eq.mpr dot)

theorem not_fails_chars (scope : Scope) (error : ScopeError) : ¬ Fails scope.chars error := by
  intro fails
  cases fails with
  | whitespace member blank => exact scope.not_isBlank_of_mem_chars _ member blank
  | emptySegment _ empty => exact scope.ne_nil_of_mem_splitOn_chars [] empty rfl
  | @invalidChar before after c split _ _ _ noDot foreign =>
    rcases scope.mem_chars c (split ▸ by simp) with segment | dot
    · exact foreign ((isSegmentChar_iff c).mp segment)
    · exact noDot dot

theorem foreign_iff (c : Char) :
    (c ≠ '.' && !isSegmentChar c) = true ↔ c ≠ '.' ∧ ¬ SegmentLetter c := by
  rw [Bool.and_eq_true, decide_eq_true_iff, ← isSegmentChar_iff, Bool.not_eq_true',
    Bool.not_eq_true]

theorem not_foreign_iff (c : Char) :
    (c ≠ '.' && !isSegmentChar c) = false ↔ c = '.' ∨ SegmentLetter c := by
  rw [Bool.eq_false_iff, ne_eq, foreign_iff, not_and_or, not_not, not_not]

theorem any_isEmpty_iff : (text.splitOn '.').any List.isEmpty = true ↔ [] ∈ text.splitOn '.' := by
  simp

theorem fault_of_fails {error : ScopeError} (fails : Fails text error) : fault text = error := by
  cases fails with
  | whitespace member blank => rw [fault, if_pos (List.any_eq_true.mpr ⟨_, member, blank⟩)]
  | emptySegment visible empty =>
    rw [fault, if_neg (by simpa [List.any_eq_true] using visible),
      if_pos (any_isEmpty_iff.mpr empty)]
  | @invalidChar before after c split visible filled letters noDot foreign =>
    have found : text.find? (fun d => d ≠ '.' && !isSegmentChar d) = some c := by
      refine List.find?_eq_some_iff_append.mpr
        ⟨(foreign_iff c).mpr ⟨noDot, foreign⟩, before, after, split, fun d member => ?_⟩
      rw [Bool.not_eq_true', not_foreign_iff]
      exact letters d member
    rw [fault, if_neg (by simpa [List.any_eq_true] using visible),
      if_neg (mt any_isEmpty_iff.mp filled), found]

theorem fails_fault (none : ¬ ∃ scope : Scope, scope.chars = text) : Fails text (fault text) := by
  unfold fault
  split
  · rename_i some
    obtain ⟨c, member, blank⟩ := List.any_eq_true.mp some
    exact .whitespace member blank
  rename_i visible
  have visible : ∀ c ∈ text, ¬ Text.isBlank c := fun c member blank =>
    visible (List.any_eq_true.mpr ⟨c, member, blank⟩)
  split
  · rename_i empty
    exact .emptySegment visible (any_isEmpty_iff.mp empty)
  rename_i filled
  have filled := mt any_isEmpty_iff.mpr filled
  split
  · rename_i c found
    obtain ⟨foreign, before, after, parts, letters⟩ := List.find?_eq_some_iff_append.mp found
    obtain ⟨noDot, outside⟩ := (foreign_iff c).mp foreign
    refine .invalidChar parts visible filled (fun d member => ?_) noDot outside
    exact (not_foreign_iff d).mp ((Bool.not_eq_true' _).mp (letters d member))
  · rename_i plain
    refine absurd (exists_chars_of_checks filled fun c member => ?_) none
    exact (not_foreign_iff c).mp ((Bool.not_eq_true _).mp (List.find?_eq_none.mp plain c member))

end Fault

/-- What is reported of a text is true of it. -/
theorem ofChars_eq_error_iff (text : List Char) (error : ScopeError) :
    ofChars text = .error error ↔ Fails text error := by
  by_cases named : ∃ scope : Scope, scope.chars = text
  · obtain ⟨scope, rfl⟩ := named
    rw [(ofChars_eq_ok_iff _ scope).mpr rfl]
    exact iff_of_false nofun (not_fails_chars scope error)
  · have read : ofChars text = .error (fault text) := by
      cases is : ofChars text with
      | ok scope => exact absurd ⟨scope, (ofChars_eq_ok_iff text scope).mp is⟩ named
      | error _ =>
        unfold ofChars at is
        split at is
        · contradiction
        · exact is.symm
    rw [read, Except.error.injEq]
    exact ⟨fun same => same ▸ fails_fault named, fault_of_fails⟩

end Scope

end ScopeCascade
