import ScopeCascade.Proofs.Text.Words
import ScopeCascade.Text.Bytes
import ScopeCascade.Text.Digits

/-! Cuts and slices of texts whose characters take one byte each, and hexadecimal digits, which are
such characters whether they are looked at as characters or as bytes. -/
namespace ScopeCascade.Text

/-- Every character takes one byte. -/
def Plain (text : List Char) : Prop := ∀ c ∈ text, c.utf8Size = 1

section Plain
variable {text : List Char} {index start stop : Nat}

theorem Plain.byteLength_eq (plain : Plain text) : byteLength text = text.length := by
  induction text with
  | nil => rfl
  | cons c rest ih =>
    obtain ⟨first, later⟩ := List.forall_mem_cons.mp plain
    rw [byteLength_cons, first, ih later, List.length_cons, Nat.add_comm]

theorem Plain.cut?_eq (plain : Plain text) (inside : index ≤ text.length) :
    cut? index text = some (text.take index, text.drop index) := by
  induction text generalizing index with
  | nil =>
    obtain rfl : index = 0 := by simpa using inside
    rfl
  | cons c rest ih =>
    obtain ⟨first, later⟩ := List.forall_mem_cons.mp plain
    cases index with
    | zero => rfl
    | succ index =>
      have fits : ¬ index + 1 < c.utf8Size := by omega
      rw [cut?, if_neg fits, first, Nat.add_sub_cancel, ih later (Nat.le_of_succ_le_succ inside)]
      rfl

theorem Plain.slice?_eq (plain : Plain text) (ordered : start ≤ stop)
    (inside : stop ≤ text.length) :
    slice? start stop text = some ((text.drop start).take (stop - start)) := by
  have front := plain.cut?_eq (Nat.le_trans ordered inside)
  have rest : Plain (text.drop start) := fun c member => plain c (List.mem_of_mem_drop member)
  have left : stop - start ≤ (text.drop start).length := by
    rw [List.length_drop]
    omega
  simp [slice?, front, rest.cut?_eq left, Nat.not_lt.mpr ordered]

end Plain

/-- The places of the hexadecimal digits in ASCII. -/
def IsHexCode (code : Nat) : Prop :=
  (48 ≤ code ∧ code ≤ 57) ∨ (65 ≤ code ∧ code ≤ 70) ∨ (97 ≤ code ∧ code ≤ 102)

theorem isHexByte_iff (byte : UInt8) : isHexByte byte ↔ IsHexCode byte.toNat := by
  simp [isHexByte, IsHexCode, UInt8.le_iff_toNat_le, or_assoc]

theorem hexDigit?_cases (c : Char) :
    (∃ digit, hexDigit? c = some digit ∧ digit < 16 ∧ IsHexCode c.toNat) ∨
      (hexDigit? c = none ∧ ¬ IsHexCode c.toNat) := by
  have decimal : '0' ≤ c ∧ c ≤ '9' ↔ 48 ≤ c.toNat ∧ c.toNat ≤ 57 := Iff.rfl
  have small : 'a' ≤ c ∧ c ≤ 'f' ↔ 97 ≤ c.toNat ∧ c.toNat ≤ 102 := Iff.rfl
  have capital : 'A' ≤ c ∧ c ≤ 'F' ↔ 65 ≤ c.toNat ∧ c.toNat ≤ 70 := Iff.rfl
  simp only [hexDigit?, decimal, small, capital, IsHexCode]
  by_cases isDecimal : 48 ≤ c.toNat ∧ c.toNat ≤ 57
  · rw [if_pos isDecimal]
    exact .inl ⟨_, rfl, by simp; omega, .inl isDecimal⟩
  by_cases isSmall : 97 ≤ c.toNat ∧ c.toNat ≤ 102
  · rw [if_neg isDecimal, if_pos isSmall]
    exact .inl ⟨_, rfl, by simp; omega, .inr (.inr isSmall)⟩
  by_cases isCapital : 65 ≤ c.toNat ∧ c.toNat ≤ 70
  · rw [if_neg isDecimal, if_neg isSmall, if_pos isCapital]
    exact .inl ⟨_, rfl, by simp; omega, .inr (.inl isCapital)⟩
  · rw [if_neg isDecimal, if_neg isSmall, if_neg isCapital]
    exact .inr ⟨rfl, by omega⟩

theorem isHexDigit_iff (c : Char) : isHexDigit c ↔ IsHexCode c.toNat := by
  rcases hexDigit?_cases c with ⟨digit, is, _, inside⟩ | ⟨is, outside⟩
  · simp [isHexDigit, is, inside]
  · simp [isHexDigit, is, outside]

section Digits
variable {c : Char} {text : List Char}

theorem exists_hexDigit?_lt (digit : isHexDigit c) : ∃ value < 16, hexDigit? c = some value := by
  rcases hexDigit?_cases c with ⟨value, is, small, _⟩ | ⟨is, _⟩
  · exact ⟨value, small, is⟩
  · rw [isHexDigit, is] at digit
    contradiction

theorem plain_of_digits (digits : ∀ c ∈ text, isHexDigit c) : Plain text := by
  intro c member
  have code := (isHexDigit_iff c).mp (digits c member)
  rw [Char.utf8Size_eq_one_iff, UInt32.le_iff_toNat_le]
  change c.toNat ≤ 127
  unfold IsHexCode at code
  omega

theorem not_isBlank_of_isHexDigit (digit : isHexDigit c) : ¬ isBlank c := by
  have code := (isHexDigit_iff c).mp digit
  unfold IsHexCode at code
  exact not_isBlank_of_visible_code (by omega) (by omega)

/-- The first byte of a character beyond ASCII is beyond ASCII. -/
theorem exists_first_byte (beyond : 127 < c.toNat) :
    ∃ first others, String.utf8EncodeChar c = first :: others ∧ 127 < first.toNat := by
  have code : c.val.toNat = c.toNat := rfl
  simp only [String.utf8EncodeChar, code, if_neg (Nat.not_le.mpr beyond)]
  split
  · exact ⟨_, _, rfl, by simp; omega⟩
  split
  · exact ⟨_, _, rfl, by simp; omega⟩
  · exact ⟨_, _, rfl, by simp; omega⟩

theorem all_isHexByte_utf8EncodeChar (c : Char) :
    (String.utf8EncodeChar c).all isHexByte ↔ isHexDigit c := by
  rw [isHexDigit_iff]
  by_cases beyond : 127 < c.toNat
  · obtain ⟨first, others, encoded, high⟩ := exists_first_byte beyond
    refine iff_of_false (fun all => ?_) fun code => ?_
    · have code := (isHexByte_iff first).mp (List.all_eq_true.mp all first (by simp [encoded]))
      unfold IsHexCode at code
      omega
    · unfold IsHexCode at code
      omega
  · have code : c.val.toNat = c.toNat := rfl
    have byte : c.toNat % 256 = c.toNat := by omega
    simp [String.utf8EncodeChar, code, if_pos (Nat.not_lt.mp beyond), isHexByte_iff, byte]

theorem all_isHexByte_bytes (text : List Char) :
    (bytes text).all isHexByte ↔ ∀ c ∈ text, isHexDigit c := by
  rw [bytes, List.all_flatMap, List.all_eq_true]
  exact forall₂_congr fun c _ => all_isHexByte_utf8EncodeChar c

theorem readHexByte?_eq {value : Nat} (digit : isHexDigit c)
    (is : readHex? (c :: text) = some value) (fits : value < UInt8.size) : readHexByte? (c :: text) = some value.toUInt8 := by
  have unsigned : c ≠ '+' := by
    rintro rfl
    contradiction
  simp [readHexByte?, unsigned, is, fits]

end Digits

end ScopeCascade.Text
