import ScopeCascade.Text.Blank

/-! Words and trimmed texts. White space around a text changes neither of them, and a text has no
words only if all of it is white space. -/
namespace ScopeCascade.Text

theorem allBlank_iff (text : List Char) : allBlank text ↔ ∀ c ∈ text, isBlank c :=
  List.all_eq_true

/-- The visible characters of ASCII. -/
theorem not_isBlank_of_visible_code {c : Char} (low : 33 ≤ c.toNat) (high : c.toNat ≤ 126) :
    ¬ isBlank c := by
  intro blank
  simp only [isBlank, inRanges, blankRanges, List.any_cons, List.any_nil] at blank
  simp at blank
  omega

theorem words_append_cons (text : List Char) {c : Char} (blank : isBlank c) (rest : List Char) :
    words (text ++ c :: rest) = words text ++ words rest := by
  rw [words, List.splitOnP_append_cons text rest blank, List.filter_append]
  rfl

theorem words_cons_of_isBlank {c : Char} (blank : isBlank c) (rest : List Char) :
    words (c :: rest) = words rest :=
  words_append_cons [] blank rest

theorem words_ne_nil_of_not_isBlank {c : Char} (visible : ¬ isBlank c) (rest : List Char) :
    words (c :: rest) ≠ [] := by
  obtain ⟨word, others, pieces⟩ :=
    List.exists_cons_of_ne_nil (List.splitOnP_ne_nil isBlank rest)
  rw [words, List.splitOnP_cons_eq_if_modifyHead, if_neg visible, pieces]
  exact List.cons_ne_nil _ _

theorem words_eq_nil_iff (text : List Char) : words text = [] ↔ allBlank text := by
  rw [allBlank_iff]
  induction text with
  | nil => simp [words]
  | cons c rest ih =>
    rw [List.forall_mem_cons]
    by_cases blank : isBlank c
    · rw [words_cons_of_isBlank blank, ih]
      exact (and_iff_right blank).symm
    · exact iff_of_false (words_ne_nil_of_not_isBlank blank rest) fun all => blank all.1

/-- What stands between separators is from the text, and no separator. -/
theorem mem_of_mem_splitOnP (separates : Char → Bool) (text : List Char) :
    ∀ piece ∈ text.splitOnP separates, ∀ c ∈ piece, c ∈ text ∧ ¬ separates c := by
  induction text with
  | nil => simp
  | cons c rest ih =>
    have later (piece : List Char) (member : piece ∈ rest.splitOnP separates) :
        ∀ d ∈ piece, d ∈ c :: rest ∧ ¬ separates d := by
      intro d inside
      obtain ⟨present, plain⟩ := ih piece member d inside
      exact ⟨List.mem_cons_of_mem _ present, plain⟩
    rw [List.splitOnP_cons_eq_if_modifyHead]
    by_cases separator : separates c
    · rw [if_pos separator]
      exact List.forall_mem_cons.mpr ⟨by simp, later⟩
    · obtain ⟨first, others, pieces⟩ :=
        List.exists_cons_of_ne_nil (List.splitOnP_ne_nil separates rest)
      rw [pieces] at later
      obtain ⟨laterFirst, laterOthers⟩ := List.forall_mem_cons.mp later
      rw [if_neg separator, pieces]
      refine List.forall_mem_cons.mpr ⟨List.forall_mem_cons.mpr ⟨?_, laterFirst⟩, laterOthers⟩
      exact ⟨List.mem_cons_self, separator⟩

theorem mem_words {text word : List Char} (member : word ∈ words text) :
    word ≠ [] ∧ ∀ c ∈ word, ¬ isBlank c := by
  obtain ⟨piece, filled⟩ := List.mem_filter.mp member
  refine ⟨by simpa using filled, fun c inside => ?_⟩
  exact (mem_of_mem_splitOnP isBlank text word piece c inside).2

theorem words_of_visible {word : List Char} (filled : word ≠ [])
    (visible : ∀ c ∈ word, ¬ isBlank c) : words word = [word] := by
  have whole : word.splitOnP isBlank = [word] :=
    List.splitOnP_eq_singleton fun c member => Bool.eq_false_iff.mpr (visible c member)
  rw [words, whole]
  simp [filled]

/-- Words with a space between each two of them are the words of the text. -/
theorem words_intercalate {list : List (List Char)}
    (visible : ∀ word ∈ list, word ≠ [] ∧ ∀ c ∈ word, ¬ isBlank c) :
    words ([' '].intercalate list) = list := by
  induction list with
  | nil => rfl
  | cons word rest ih =>
    obtain ⟨⟨filled, plain⟩, others⟩ := List.forall_mem_cons.mp visible
    cases rest with
    | nil => rw [List.intercalate_singleton, words_of_visible filled plain]
    | cons next later =>
      rw [List.intercalate_cons_cons, List.append_assoc, List.singleton_append,
        words_append_cons word (by decide), words_of_visible filled plain, ih others,
        List.singleton_append]

theorem words_surrounded {before after : List Char} (blankBefore : allBlank before)
    (text : List Char) (blankAfter : allBlank after) :
    words (before ++ text ++ after) = words text := by
  have behind : words (text ++ after) = words text := by
    cases after with
    | nil => rw [List.append_nil]
    | cons c rest =>
      obtain ⟨first, later⟩ := List.forall_mem_cons.mp ((allBlank_iff _).mp blankAfter)
      rw [words_append_cons text first, (words_eq_nil_iff rest).mpr ((allBlank_iff rest).mpr later),
        List.append_nil]
  rw [List.append_assoc]
  induction before with
  | nil => exact behind
  | cons c rest ih =>
    obtain ⟨first, later⟩ := List.forall_mem_cons.mp ((allBlank_iff _).mp blankBefore)
    rw [List.cons_append, words_cons_of_isBlank first]
    exact ih ((allBlank_iff rest).mpr later)

theorem trim_surrounded {before after : List Char} (blankBefore : allBlank before)
    (text : List Char) (blankAfter : allBlank after) :
    trim (before ++ text ++ after) = trim text := by
  have reversed : ∀ c ∈ after.reverse, isBlank c := by
    intro c member
    exact (allBlank_iff _).mp blankAfter c (List.mem_reverse.mp member)
  rw [trim, trim, List.append_assoc,
    List.dropWhile_append_of_pos ((allBlank_iff _).mp blankBefore), List.dropWhile_append]
  split
  · rename_i nothing
    -- Nothing but white space: both ends drop all of it.
    have dropped : (after ++ []).dropWhile isBlank = [] :=
      List.dropWhile_append_of_pos ((allBlank_iff _).mp blankAfter)
    rw [List.append_nil] at dropped
    rw [List.isEmpty_iff.mp nothing, dropped]
  · rw [List.reverse_append, List.dropWhile_append_of_pos reversed]

/-- Nothing is trimmed off a text that neither starts nor ends with white space. -/
theorem trim_of_visible {first last : Char} (visibleFirst : ¬ isBlank first)
    (visibleLast : ¬ isBlank last) (text : List Char) :
    trim (first :: text ++ [last]) = first :: text ++ [last] := by
  have ends : (first :: text ++ [last]).reverse = last :: (first :: text).reverse := by
    rw [List.reverse_append, List.reverse_singleton, List.singleton_append]
  rw [trim, List.cons_append, List.dropWhile_cons_of_neg visibleFirst, ← List.cons_append, ends,
    List.dropWhile_cons_of_neg visibleLast, ← ends, List.reverse_reverse]

theorem trim_of_all_visible {text : List Char} (visible : ∀ c ∈ text, ¬ isBlank c) :
    trim text = text := by
  have kept {list : List Char} (visible : ∀ c ∈ list, ¬ isBlank c) :
      list.dropWhile isBlank = list := by
    cases list with
    | nil => rfl
    | cons c rest => exact List.dropWhile_cons_of_neg (visible c List.mem_cons_self)
  have reversed : ∀ c ∈ text.reverse, ¬ isBlank c :=
    fun c member => visible c (List.mem_reverse.mp member)
  rw [trim, kept visible, kept reversed, List.reverse_reverse]

/-- A text is its trimmed form with white space on either side. -/
theorem exists_surrounding_trim (text : List Char) :
    ∃ before after, allBlank before ∧ allBlank after ∧ before ++ trim text ++ after = text := by
  let body := text.dropWhile isBlank
  refine ⟨text.takeWhile isBlank, (body.reverse.takeWhile isBlank).reverse, ?_, ?_, ?_⟩
  · exact List.all_takeWhile
  · rw [allBlank_iff]
    intro c member
    exact List.all_eq_true.mp List.all_takeWhile c (List.mem_reverse.mp member)
  · have ends : trim text ++ (body.reverse.takeWhile isBlank).reverse = body := by
      rw [trim, ← List.reverse_append, List.takeWhile_append_dropWhile, List.reverse_reverse]
    rw [List.append_assoc, ends, List.takeWhile_append_dropWhile]

end ScopeCascade.Text
