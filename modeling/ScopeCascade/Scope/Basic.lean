import ScopeCascade.Text.Quoted

/-! Scopes: dot-separated names such as `string.quoted.double`, from the general to the
particular. -/
namespace ScopeCascade

/-- The characters of a segment. -/
def isSegmentChar (c : Char) : Bool :=
  c.isAlphanum || c = '_' || c = '+' || c = '#' || c = '-'

def isSegment (chars : List Char) : Bool := !chars.isEmpty && chars.all isSegmentChar

/-- A piece of a scope between two dots. -/
abbrev Segment := { chars : List Char // isSegment chars = true }

/-- A scope has at least one segment. -/
structure Scope where
  segments : List Segment
  segments_ne_nil : segments ≠ []
deriving DecidableEq

/-- Why a text is no scope, or no path of scopes. -/
inductive ScopeError
  | noScopes
  | emptySegment (scope : List Char)
  | whitespace (scope : List Char)
  | invalidChar (scope : List Char) (char : Char)
deriving DecidableEq

def ScopeError.message : ScopeError → String
  | noScopes => "empty scope path"
  | emptySegment scope => "scope " ++ Text.quoted (String.ofList scope) ++ " has an empty segment"
  | whitespace scope => "scope " ++ Text.quoted (String.ofList scope) ++ " contains whitespace"
  | invalidChar scope char =>
    "scope " ++ Text.quoted (String.ofList scope) ++ " contains invalid character '" ++
      char.toString ++ "'"

namespace Scope

/-- The pieces as segments, if all of them are. -/
def segments? (pieces : List (List Char)) : Option (List Segment) :=
  pieces.mapM fun piece =>
    if h : isSegment piece = true then some ⟨piece, h⟩ else none

/-- The scope made of the pieces, if all of them are segments and there is one. -/
def ofPieces? (pieces : List (List Char)) : Option Scope :=
  match segments? pieces with
  | some (segment :: rest) => some ⟨segment :: rest, by simp⟩
  | _ => none

theorem segments?_eq_some_iff (pieces : List (List Char)) (segments : List Segment) :
    segments? pieces = some segments ↔ segments.map Subtype.val = pieces := by
  induction pieces generalizing segments with
  | nil => cases segments <;> simp [segments?]
  | cons piece rest ih =>
    unfold segments? at ih ⊢
    rw [List.mapM_cons]
    by_cases valid : isSegment piece = true
    · rw [dif_pos valid]
      constructor
      · intro read
        obtain ⟨later, readLater, rfl⟩ := Option.map_eq_some_iff.mp
          ((Option.map_eq_bind (f := ((⟨piece, valid⟩ : Segment) :: ·))).trans read)
        rw [List.map_cons, (ih later).mp readLater]
      · intro values
        obtain ⟨segment, later, rfl, rfl, same⟩ := List.map_eq_cons_iff.mp values
        simp [(ih later).mpr same]
    · rw [dif_neg valid]
      constructor
      · intro read
        contradiction
      · intro values
        obtain ⟨segment, later, rfl, rfl, same⟩ := List.map_eq_cons_iff.mp values
        exact absurd segment.property valid

theorem ofPieces?_eq_some_iff (pieces : List (List Char)) (scope : Scope) :
    ofPieces? pieces = some scope ↔ scope.segments.map Subtype.val = pieces := by
  rw [← segments?_eq_some_iff]
  obtain ⟨segments, nonempty⟩ := scope
  unfold ofPieces?
  split
  · rename_i segment rest read
    simp [read]
  · rename_i none
    constructor
    · intro absurd
      contradiction
    · intro read
      obtain ⟨segment, rest, rfl⟩ := List.exists_cons_of_ne_nil nonempty
      exact absurd read (none segment rest)

/-- Why the text is no scope: white space anywhere counts before an empty segment, and that before
a foreign character. -/
def fault (text : List Char) : ScopeError :=
  if text.any Text.isBlank then .whitespace text
  else if (text.splitOn '.').any List.isEmpty then .emptySegment text
  else
    match text.find? fun c => c ≠ '.' && !isSegmentChar c with
    | some c => .invalidChar text c
    | none => .emptySegment text

def ofChars (text : List Char) : Except ScopeError Scope :=
  match ofPieces? (text.splitOn '.') with
  | some scope => .ok scope
  | none => .error (fault text)

def parse (text : String) : Except ScopeError Scope := ofChars text.toList

def chars (scope : Scope) : List Char := ['.'].intercalate (scope.segments.map Subtype.val)

def name (scope : Scope) : String := String.ofList scope.chars

def length (scope : Scope) : Nat := scope.segments.length

/-- Whether the other scope begins with all segments of this one. -/
def isPrefixOf (scope other : Scope) : Bool := scope.segments.isPrefixOf other.segments

/-- Whether the scope begins with these pieces as its segments. -/
def startsWith (scope : Scope) (pieces : List (List Char)) : Bool :=
  pieces.isPrefixOf (scope.segments.map Subtype.val)

end Scope

end ScopeCascade
