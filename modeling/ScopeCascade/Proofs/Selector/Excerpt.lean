import ScopeCascade.Proofs.Text.Words
import ScopeCascade.Selector.Error

/-! The piece of a text that a message shows. It is cut out between characters: the word that stands
at a place, or the last word of the text where nothing follows. -/
namespace ScopeCascade.Selector.ParseError

/-- What a fragment shows of a text, before and after a place in it. -/
structure Shows (before after fragment : List Char) : Prop where
  filled : fragment ≠ []
  visible : ∀ c ∈ fragment, ¬ Text.isBlank c
  short : fragment.length ≤ 24
  place : after ≠ [] → fragment <+: after
  stop : after = [] → ∃ word, (Text.words before).getLast? = some word ∧ fragment <+: word

theorem splitAt_byteLength (before after : List Char) :
    splitAt (Text.byteLength before) (before ++ after) = (before, after) := by
  induction before with
  | nil => exact splitAt.eq_1 after
  | cons c rest ih =>
    obtain ⟨size, positive⟩ := Nat.exists_eq_add_one.mpr c.utf8Size_pos
    have bytes : Text.byteLength (c :: rest) = size + Text.byteLength rest + 1 := by
      rw [Text.byteLength_cons, positive]
      omega
    have left : size + Text.byteLength rest + 1 - c.utf8Size = Text.byteLength rest := by
      omega
    rw [bytes, List.cons_append, splitAt, left, ih]

theorem excerpt_cut (before after : List Char) :
    excerpt (before ++ after) (Text.byteLength before) =
      (if (after.takeWhile (!Text.isBlank ·)).isEmpty then (Text.words before).getLastD []
        else after.takeWhile (!Text.isBlank ·)).take 24 := by
  rw [excerpt, splitAt_byteLength]
  rfl

theorem shows_excerpt {before after : List Char}
    (visible : ∀ c, after.head? = some c → ¬ Text.isBlank c)
    (filled : ¬ Text.allBlank (before ++ after)) :
    Shows before after (excerpt (before ++ after) (Text.byteLength before)) := by
  rw [excerpt_cut]
  cases after with
  | nil =>
    rw [List.append_nil, ← Text.words_eq_nil_iff] at filled
    obtain ⟨word, last⟩ := Option.ne_none_iff_exists'.mp (mt List.getLast?_eq_none_iff.mp filled)
    have shown := Text.mem_words (List.mem_of_getLast? last)
    have chosen : (Text.words before).getLastD [] = word := by
      rw [List.getLastD_eq_getLast?, last]
      rfl
    rw [List.takeWhile_nil, List.isEmpty_nil, if_pos rfl, chosen]
    refine ⟨?_, fun c member => shown.2 c (List.mem_of_mem_take member), List.length_take_le _ _,
      fun more => absurd rfl more, fun _ => ⟨word, last, List.take_prefix _ _⟩⟩
    simpa [List.take_eq_nil_iff] using shown.1
  | cons c rest =>
    have first : (!Text.isBlank c) = true := by simpa using visible c rfl
    have word : (c :: rest).takeWhile (!Text.isBlank ·) = c :: rest.takeWhile (!Text.isBlank ·) :=
      List.takeWhile_cons_of_pos first
    rw [word, List.isEmpty_cons, if_neg Bool.false_ne_true]
    refine ⟨by simp, ?_, List.length_take_le _ _, fun _ => ?_, fun none => by contradiction⟩
    · intro d member
      rcases List.mem_cons.mp (List.mem_of_mem_take member) with rfl | later
      · simpa using first
      · simpa using List.all_eq_true.mp List.all_takeWhile d later
    · exact (List.take_prefix _ _).trans (word ▸ List.takeWhile_prefix _)

variable {blanks others : List Char}

theorem takeWhile_append_blanks (text : List Char) (blank : Text.allBlank blanks) :
    (text ++ blanks).takeWhile (!Text.isBlank ·) = text.takeWhile (!Text.isBlank ·) := by
  have nothing : blanks.takeWhile (!Text.isBlank ·) = [] := by
    cases blanks with
    | nil => rfl
    | cons c rest =>
      have first := (List.forall_mem_cons.mp ((Text.allBlank_iff _).mp blank)).1
      exact List.takeWhile_cons_of_neg (by simp [first])
  rw [List.takeWhile_append, nothing, List.append_nil]
  split
  · rename_i all
    exact ((List.takeWhile_prefix _).eq_of_length all).symm
  · rfl

/-- White space around a text changes no excerpt from it. -/
theorem excerpt_surrounded (blank : Text.allBlank blanks) (before after : List Char)
    (blankOthers : Text.allBlank others) :
    excerpt (blanks ++ (before ++ after) ++ others) (Text.byteLength (blanks ++ before)) =
      excerpt (before ++ after) (Text.byteLength before) := by
  have cut : blanks ++ (before ++ after) ++ others = (blanks ++ before) ++ (after ++ others) := by
    simp only [List.append_assoc]
  have words : Text.words (blanks ++ before) = Text.words before := by
    have surrounded := @Text.words_surrounded blanks [] blank before rfl
    rwa [List.append_nil] at surrounded
  rw [cut, excerpt_cut, excerpt_cut, takeWhile_append_blanks after blankOthers, words]

theorem excerpt_end_surrounded (blank : Text.allBlank blanks) (text : List Char)
    (blankOthers : Text.allBlank others) :
    excerpt (blanks ++ text ++ others) (Text.byteLength (blanks ++ text ++ others)) =
      excerpt text (Text.byteLength text) := by
  have whole := excerpt_cut (blanks ++ text ++ others) []
  have own := excerpt_cut text []
  rw [List.append_nil] at whole own
  rw [whole, own, Text.words_surrounded blank text blankOthers]

end ScopeCascade.Selector.ParseError
