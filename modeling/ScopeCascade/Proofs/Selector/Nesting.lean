import ScopeCascade.Text.Blank

/-! Balanced parentheses, and the parentheses that a text leaves open. -/
namespace ScopeCascade.Selector

/-- How many parentheses are open after a text if some were before it, unless it closes one that is
not open. -/
def openAfter : Nat → List Char → Option Nat
  | depth, [] => some depth
  | depth, c :: rest =>
    if c = '(' then openAfter (depth + 1) rest
    else if c = ')' then
      match depth with
      | 0 => none
      | depth + 1 => openAfter depth rest
    else openAfter depth rest

/-- Every parenthesis in the text is closed, and none that was not opened. -/
def Balanced (text : List Char) : Prop := openAfter 0 text = some 0

instance : DecidablePred Balanced := fun text =>
  inferInstanceAs (Decidable (openAfter 0 text = some 0))

theorem openAfter_opening (depth : Nat) (rest : List Char) :
    openAfter depth ('(' :: rest) = openAfter (depth + 1) rest := rfl

theorem openAfter_closing (depth : Nat) (rest : List Char) :
    openAfter (depth + 1) (')' :: rest) = openAfter depth rest := rfl

theorem openAfter_other {c : Char} (notOpening : c ≠ '(') (notClosing : c ≠ ')') (depth : Nat)
    (rest : List Char) : openAfter depth (c :: rest) = openAfter depth rest := by
  simp [openAfter, notOpening, notClosing]

theorem openAfter_append (depth : Nat) (text more : List Char) :
    openAfter depth (text ++ more) = (openAfter depth text).bind (openAfter · more) := by
  fun_induction openAfter depth text with
  | case1 => rfl
  | case2 depth rest ih => exact ih
  | case3 => rfl
  | case4 rest _ depth ih => exact ih
  | case5 depth c rest notOpening notClosing ih =>
    rw [List.cons_append, openAfter_other notOpening notClosing, ih]

theorem openAfter_add {depth left : Nat} {text : List Char}
    (leaves : openAfter depth text = some left) (outer : Nat) :
    openAfter (depth + outer) text = some (left + outer) := by
  fun_induction openAfter depth text with
  | case1 => simp_all [openAfter]
  | case2 depth rest ih =>
    rw [openAfter_opening, Nat.add_right_comm]
    exact ih leaves
  | case3 => contradiction
  | case4 rest _ depth ih =>
    rw [Nat.succ_add, openAfter_closing]
    exact ih leaves
  | case5 depth c rest notOpening notClosing ih =>
    rw [openAfter_other notOpening notClosing]
    exact ih leaves

namespace Balanced

variable {text inner more : List Char}

theorem openAfter_eq (balanced : Balanced text) (depth : Nat) :
    openAfter depth text = some depth := by
  have deeper := openAfter_add balanced depth
  rwa [Nat.zero_add] at deeper

theorem append (first : Balanced text) (last : Balanced more) : Balanced (text ++ more) := by
  rw [Balanced, openAfter_append, first]
  exact last

theorem group (balanced : Balanced inner) : Balanced ('(' :: inner ++ [')']) := by
  rw [Balanced, List.cons_append, openAfter_opening, openAfter_append, balanced.openAfter_eq]
  rfl

theorem of_plain (plain : ∀ c ∈ text, c ≠ '(' ∧ c ≠ ')') : Balanced text := by
  induction text with
  | nil => rfl
  | cons c rest ih =>
    obtain ⟨first, later⟩ := List.forall_mem_cons.mp plain
    rw [Balanced, openAfter_other first.1 first.2]
    exact ih later

/-- What follows balanced parentheses cannot close one of them. -/
theorem not_closed (balanced : Balanced text) : ¬ Balanced (text ++ ')' :: more) := by
  rw [Balanced, openAfter_append, balanced]
  intro closes
  contradiction

end Balanced

/-- The positions of the parentheses that the text leaves open, the innermost first. -/
inductive LeavesOpen : List Char → List Nat → Prop
  | none {text : List Char} : Balanced text → LeavesOpen text []
  | inside {text inner : List Char} {positions : List Nat} :
      LeavesOpen text positions → Balanced inner →
      LeavesOpen (text ++ '(' :: inner) (Text.byteLength text :: positions)

namespace LeavesOpen

variable {text more : List Char} {position : Nat} {positions : List Nat}

theorem balanced (leaves : LeavesOpen text []) : Balanced text := by
  cases leaves
  assumption

theorem append (leaves : LeavesOpen text positions) (balanced : Balanced more) :
    LeavesOpen (text ++ more) positions := by
  cases leaves with
  | none first => exact .none (first.append balanced)
  | inside outer inner =>
    rw [List.append_assoc, List.cons_append]
    exact .inside outer (inner.append balanced)

theorem opened (leaves : LeavesOpen text positions) :
    LeavesOpen (text ++ ['(']) (Text.byteLength text :: positions) :=
  .inside leaves rfl

theorem closed (leaves : LeavesOpen text (position :: positions)) :
    LeavesOpen (text ++ [')']) positions := by
  cases leaves with
  | inside outer inner =>
    rw [List.append_assoc]
    exact outer.append inner.group

/-- The innermost open parenthesis stands at its position, and nothing in the text closes it. -/
theorem innermost (leaves : LeavesOpen text (position :: positions)) :
    ∃ before inner, text = before ++ '(' :: inner ∧ Text.byteLength before = position ∧
      ∀ group more, inner = group ++ ')' :: more → ¬ Balanced group := by
  cases leaves with
  | @inside before inner _ _ balanced =>
    refine ⟨before, inner, rfl, rfl, ?_⟩
    rintro group more rfl closes
    exact closes.not_closed balanced

end LeavesOpen

end ScopeCascade.Selector
