import ScopeCascade.Color
import ScopeCascade.Proofs.Text.Bytes
import ScopeCascade.Proofs.Text.Words

/-! Colors and the texts that denote them. Digits are read from slices of bytes; as nothing else
than digits is sliced, the slices exist and the numbers fit in a byte. -/
namespace ScopeCascade.Color

/-- The text is the digits, with white space around them and at most one `#` before them. -/
def Writes (text digits : List Char) : Prop :=
  ∃ before mark after, Text.allBlank before ∧ (mark = [] ∨ mark = ['#']) ∧ Text.allBlank after ∧
    before ++ (mark ++ digits) ++ after = text

/-- The channel that two hexadecimal digits denote. -/
def Spells (high low : Char) (value : UInt8) : Prop :=
  ∃ h l, Text.hexDigit? high = some h ∧ Text.hexDigit? low = some l ∧ value.toNat = 16 * h + l

/-- The color that hexadecimal digits denote: two for a channel, or one that counts twice. -/
inductive Denotes (color : Color) : List Char → Prop
  | short {r g b : Char} (red : Spells r r color.r) (green : Spells g g color.g)
      (blue : Spells b b color.b) (solid : color.a = 255) : Denotes color [r, g, b]
  | shortClear {r g b a : Char} (red : Spells r r color.r) (green : Spells g g color.g)
      (blue : Spells b b color.b) (opacity : Spells a a color.a) : Denotes color [r, g, b, a]
  | long {r r' g g' b b' : Char} (red : Spells r r' color.r) (green : Spells g g' color.g)
      (blue : Spells b b' color.b) (solid : color.a = 255) : Denotes color [r, r', g, g', b, b']
  | longClear {r r' g g' b b' a a' : Char} (red : Spells r r' color.r)
      (green : Spells g g' color.g) (blue : Spells b b' color.b)
      (opacity : Spells a a' color.a) : Denotes color [r, r', g, g', b, b', a, a']

/-- Every digit twice. -/
def doubled (digits : List Char) : List Char := digits.flatMap fun c => [c, c]

variable {text hex : List Char} {color : Color} {index : Nat}

theorem exists_mark (text : List Char) :
    ∃ mark, (mark = [] ∨ mark = ['#']) ∧ mark ++ dropHash text = text := by
  unfold dropHash
  split
  · exact ⟨['#'], .inr rfl, rfl⟩
  · exact ⟨[], .inl rfl, rfl⟩

theorem writes_dropHash_trim (text : List Char) : Writes text (dropHash (Text.trim text)) := by
  obtain ⟨before, after, blankBefore, blankAfter, whole⟩ := Text.exists_surrounding_trim text
  obtain ⟨mark, one, body⟩ := exists_mark (Text.trim text)
  exact ⟨before, mark, after, blankBefore, one, blankAfter, by rw [body, whole]⟩

theorem dropHash_trim_of_writes (writes : Writes text hex)
    (areDigits : ∀ c ∈ hex, Text.isHexDigit c) : dropHash (Text.trim text) = hex := by
  obtain ⟨before, mark, after, blankBefore, one, blankAfter, rfl⟩ := writes
  have visible : ∀ c ∈ hex, ¬ Text.isBlank c :=
    fun c member => Text.not_isBlank_of_isHexDigit (areDigits c member)
  have bare : dropHash hex = hex := by
    unfold dropHash
    split
    · exact absurd (areDigits '#' List.mem_cons_self) (by decide)
    · rfl
  rw [Text.trim_surrounded blankBefore _ blankAfter]
  rcases one with rfl | rfl
  · rw [List.nil_append, Text.trim_of_all_visible visible, bare]
  · have marked : ∀ c ∈ '#' :: hex, ¬ Text.isBlank c :=
      List.forall_mem_cons.mpr ⟨by decide, visible⟩
    rw [List.singleton_append, Text.trim_of_all_visible marked]
    rfl

section Digits
variable (areDigits : ∀ c ∈ hex, Text.isHexDigit c)
include areDigits

theorem byte_of_digits {first : Char} {rest : List Char} {count value : Nat}
    (inside : index + count ≤ hex.length) (piece : (hex.drop index).take count = first :: rest)
    (is : Text.readHex? (first :: rest) = some value) (fits : value < UInt8.size) :
    byte hex index (index + count) = .ok value.toUInt8 := by
  have member : first ∈ (hex.drop index).take count := by
    rw [piece]
    exact List.mem_cons_self
  have digit := areDigits first (List.mem_of_mem_drop (List.mem_of_mem_take member))
  -- Digits take one byte each, so that every index up to their number is between characters.
  have sliced := (Text.plain_of_digits areDigits).slice?_eq (Nat.le_add_right index count) inside
  rw [Nat.add_sub_cancel_left, piece] at sliced
  rw [byte, sliced]
  simp only [Text.readHexByte?_eq digit is fits]
  rfl

/-- Seventeen times a digit is below 256, and it is the digit twice. -/
theorem short_of_digits (inside : index < hex.length) :
    ∃ value, short hex index = .ok value ∧ Spells hex[index] hex[index] value := by
  obtain ⟨digit, small, is⟩ := Text.exists_hexDigit?_lt (areDigits _ (List.getElem_mem inside))
  have piece : (hex.drop index).take 1 = [hex[index]] := by
    rw [List.drop_eq_getElem_cons inside]
    rfl
  have read : byte hex index (index + 1) = .ok digit.toUInt8 :=
    byte_of_digits areDigits inside piece (by simp [Text.readHex?, is])
      (Nat.lt_trans small (by decide))
  have own : digit.toUInt8.toNat = digit := Nat.mod_eq_of_lt (Nat.lt_trans small (by decide))
  have fits : digit.toUInt8.toNat * 17 < UInt8.size := by
    change digit.toUInt8.toNat * 17 < 256
    omega
  refine ⟨digit.toUInt8 * 17, ?_, digit, digit, is, is, ?_⟩
  · rw [short, read]
    exact if_pos fits
  · rw [UInt8.toNat_mul, own]
    change digit * 17 % 256 = 16 * digit + digit
    omega

theorem long_of_digits (inside : index + 1 < hex.length) :
    ∃ value, long hex index = .ok value ∧ Spells hex[index] hex[index + 1] value := by
  have first : index < hex.length := Nat.lt_of_succ_lt inside
  obtain ⟨high, smallHigh, isHigh⟩ :=
    Text.exists_hexDigit?_lt (areDigits _ (List.getElem_mem first))
  obtain ⟨low, smallLow, isLow⟩ := Text.exists_hexDigit?_lt (areDigits _ (List.getElem_mem inside))
  have piece : (hex.drop index).take 2 = [hex[index], hex[index + 1]] := by
    rw [List.drop_eq_getElem_cons first, List.drop_eq_getElem_cons inside]
    rfl
  have fits : 16 * high + low < UInt8.size := by
    change 16 * high + low < 256
    omega
  refine ⟨(16 * high + low).toUInt8, ?_, high, low, isHigh, isLow, ?_⟩
  · exact byte_of_digits areDigits inside piece (by simp [Text.readHex?, isHigh, isLow]) fits
  · exact Nat.mod_eq_of_lt fits

/-- Digits denote a color if there are three, four, six or eight of them. No slice of them and no
product is missing. -/
theorem ofDigits_cases :
    (∃ color, ofDigits hex = .ok color ∧ Denotes color hex) ∨
      (ofDigits hex = .error .malformed ∧ hex.length ∉ [3, 4, 6, 8]) := by
  have size := (Text.plain_of_digits areDigits).byteLength_eq
  have one (n : Nat) (inside : n < hex.length) := short_of_digits areDigits inside
  have two (n : Nat) (inside : n + 1 < hex.length) := long_of_digits areDigits inside
  unfold ofDigits
  rw [size]
  match hex with
  | [r, g, b] =>
    obtain ⟨red, isRed, readsRed⟩ := one 0 (by simp)
    obtain ⟨green, isGreen, readsGreen⟩ := one 1 (by simp)
    obtain ⟨blue, isBlue, readsBlue⟩ := one 2 (by simp)
    refine .inl ⟨opaqueOf red green blue, ?_, .short readsRed readsGreen readsBlue rfl⟩
    simp only [List.length_cons, isRed, isGreen, isBlue]
    rfl
  | [r, g, b, a] =>
    obtain ⟨red, isRed, readsRed⟩ := one 0 (by simp)
    obtain ⟨green, isGreen, readsGreen⟩ := one 1 (by simp)
    obtain ⟨blue, isBlue, readsBlue⟩ := one 2 (by simp)
    obtain ⟨opacity, isOpacity, readsOpacity⟩ := one 3 (by simp)
    refine .inl ⟨⟨red, green, blue, opacity⟩, ?_,
      .shortClear readsRed readsGreen readsBlue readsOpacity⟩
    simp only [List.length_cons, isRed, isGreen, isBlue, isOpacity]
    rfl
  | [r, r', g, g', b, b'] =>
    obtain ⟨red, isRed, readsRed⟩ := two 0 (by simp)
    obtain ⟨green, isGreen, readsGreen⟩ := two 2 (by simp)
    obtain ⟨blue, isBlue, readsBlue⟩ := two 4 (by simp)
    refine .inl ⟨opaqueOf red green blue, ?_, .long readsRed readsGreen readsBlue rfl⟩
    simp only [List.length_cons, isRed, isGreen, isBlue]
    rfl
  | [r, r', g, g', b, b', a, a'] =>
    obtain ⟨red, isRed, readsRed⟩ := two 0 (by simp)
    obtain ⟨green, isGreen, readsGreen⟩ := two 2 (by simp)
    obtain ⟨blue, isBlue, readsBlue⟩ := two 4 (by simp)
    obtain ⟨opacity, isOpacity, readsOpacity⟩ := two 6 (by simp)
    refine .inl ⟨⟨red, green, blue, opacity⟩, ?_,
      .longClear readsRed readsGreen readsBlue readsOpacity⟩
    simp only [List.length_cons, isRed, isGreen, isBlue, isOpacity]
    rfl
  | [] | [_] | [_, _] | [_, _, _, _, _] | [_, _, _, _, _, _, _]
  | _ :: _ :: _ :: _ :: _ :: _ :: _ :: _ :: _ :: _ => exact .inr ⟨rfl, by simp⟩

end Digits

namespace Spells
variable {high low : Char} {value other : UInt8}

theorem unique (spells : Spells high low value) (again : Spells high low other) :
    value = other := by
  obtain ⟨h, l, isHigh, isLow, sum⟩ := spells
  obtain ⟨h', l', isHigh', isLow', sum'⟩ := again
  obtain rfl : h = h' := Option.some.inj (isHigh.symm.trans isHigh')
  obtain rfl : l = l' := Option.some.inj (isLow.symm.trans isLow')
  exact UInt8.toNat.inj (sum.trans sum'.symm)

theorem digits (spells : Spells high low value) : Text.isHexDigit high ∧ Text.isHexDigit low := by
  obtain ⟨h, l, isHigh, isLow, -⟩ := spells
  simp [Text.isHexDigit, isHigh, isLow]

end Spells

namespace Denotes

theorem digits (denotes : Denotes color hex) : ∀ c ∈ hex, Text.isHexDigit c := by
  cases denotes with
  | short red green blue => simp [red.digits, green.digits, blue.digits]
  | shortClear red green blue opacity =>
    simp [red.digits, green.digits, blue.digits, opacity.digits]
  | long red green blue => simp [red.digits, green.digits, blue.digits]
  | longClear red green blue opacity =>
    simp [red.digits, green.digits, blue.digits, opacity.digits]

theorem length_mem (denotes : Denotes color hex) : hex.length ∈ [3, 4, 6, 8] := by
  cases denotes <;> simp

theorem unique {other : Color} (denotes : Denotes color hex) (again : Denotes other hex) :
    color = other := by
  cases denotes with
  | short red green blue solid =>
    cases again with
    | short red' green' blue' solid' =>
      exact Color.ext (red.unique red') (green.unique green') (blue.unique blue')
        (solid.trans solid'.symm)
  | shortClear red green blue opacity =>
    cases again with
    | shortClear red' green' blue' opacity' =>
      exact Color.ext (red.unique red') (green.unique green') (blue.unique blue')
        (opacity.unique opacity')
  | long red green blue solid =>
    cases again with
    | long red' green' blue' solid' =>
      exact Color.ext (red.unique red') (green.unique green') (blue.unique blue')
        (solid.trans solid'.symm)
  | longClear red green blue opacity =>
    cases again with
    | longClear red' green' blue' opacity' =>
      exact Color.ext (red.unique red') (green.unique green') (blue.unique blue')
        (opacity.unique opacity')

theorem doubled (denotes : Denotes color hex) (single : hex.length ∈ [3, 4]) :
    Denotes color (Color.doubled hex) := by
  cases denotes with
  | short red green blue solid => exact .long red green blue solid
  | shortClear red green blue opacity => exact .longClear red green blue opacity
  | long | longClear => simp at single

end Denotes

theorem ofChars_of_writes (writes : Writes text hex) (areDigits : ∀ c ∈ hex, Text.isHexDigit c) :
    ofChars text = ofDigits hex := by
  rw [ofChars, dropHash_trim_of_writes writes areDigits]
  exact if_pos ((Text.all_isHexByte_bytes hex).mpr areDigits)

/-- Reading ends with a color that the text denotes, or says that the text is malformed. -/
theorem ofChars_cases (text : List Char) :
    (∃ color hex, ofChars text = .ok color ∧ Writes text hex ∧ Denotes color hex) ∨
      ofChars text = .error .malformed := by
  have writes := writes_dropHash_trim text
  by_cases areDigits : ∀ c ∈ dropHash (Text.trim text), Text.isHexDigit c
  · rw [ofChars_of_writes writes areDigits]
    rcases ofDigits_cases areDigits with ⟨color, is, denotes⟩ | ⟨is, -⟩
    · exact .inl ⟨color, _, is, writes, denotes⟩
    · exact .inr is
  · exact .inr (if_neg (mt (Text.all_isHexByte_bytes _).mp areDigits))

theorem ofChars_eq_ok_iff :
    ofChars text = .ok color ↔ ∃ hex, Writes text hex ∧ Denotes color hex := by
  constructor
  · intro is
    rcases ofChars_cases text with ⟨other, hex, isOther, writes, denotes⟩ | malformed
    · obtain rfl : other = color := Except.ok.inj (isOther.symm.trans is)
      exact ⟨hex, writes, denotes⟩
    · rw [malformed] at is
      contradiction
  · rintro ⟨hex, writes, denotes⟩
    rw [ofChars_of_writes writes denotes.digits]
    rcases ofDigits_cases denotes.digits with ⟨other, is, again⟩ | ⟨-, other⟩
    · rw [is, denotes.unique again]
    · exact absurd denotes.length_mem other

theorem parse?_eq_some_iff {text : String} :
    parse? text = some color ↔ ∃ hex, Writes text.toList hex ∧ Denotes color hex := by
  rw [← ofChars_eq_ok_iff, parse?]
  cases ofChars text.toList with
  | ok other => simp [Except.toOption]
  | error failure => simp [Except.toOption]

theorem hexDigit?_hexChar {digit : Nat} (small : digit < 16) :
    Text.hexDigit? (hexChar digit) = some digit := by
  have all : ∀ digit < 16, Text.hexDigit? (hexChar digit) = some digit := by decide
  exact all digit small

theorem spells_channel (value : UInt8) :
    Spells (hexChar (value.toNat / 16)) (hexChar (value.toNat % 16)) value := by
  have byte := value.toNat_lt
  exact ⟨_, _, hexDigit?_hexChar (by omega), hexDigit?_hexChar (by omega),
    (Nat.div_add_mod value.toNat 16).symm⟩

/-- Opacity is left out only where the digits that are left denote an opaque color. -/
theorem denotes_chars (color : Color) : ∃ hex, color.chars = '#' :: hex ∧ Denotes color hex := by
  refine ⟨_, rfl, ?_⟩
  have red := spells_channel color.r
  have green := spells_channel color.g
  have blue := spells_channel color.b
  by_cases solid : color.isOpaque
  · rw [if_pos solid]
    exact .long red green blue (of_decide_eq_true solid)
  · rw [if_neg solid]
    exact .longClear red green blue (spells_channel color.a)

theorem parse?_text (color : Color) : parse? color.text = some color := by
  obtain ⟨hex, written, denotes⟩ := denotes_chars color
  refine parse?_eq_some_iff.mpr ⟨hex, ?_, denotes⟩
  rw [text, String.toList_ofList, written]
  exact ⟨[], ['#'], [], rfl, .inr rfl, rfl, List.append_nil _⟩

/-- Texts and colors. Reading a text never breaks off at a slice or a product; it finds a color
just where the text is three, four, six or eight hexadecimal digits; three or four of them denote
what the doubled ones denote; and the text of a color denotes the color. -/
theorem read_from_hexadecimal_text :
    (∀ text : String, (∃ color, ofChars text.toList = .ok color) ∨
      ofChars text.toList = .error .malformed) ∧
    (∀ text : String, (∃ color, parse? text = some color) ↔
      ∃ hex, Writes text.toList hex ∧ (∀ c ∈ hex, Text.isHexDigit c) ∧
        hex.length ∈ [3, 4, 6, 8]) ∧
    (∀ (hex : List Char) (short long : String), (∀ c ∈ hex, Text.isHexDigit c) →
      hex.length ∈ [3, 4] → Writes short.toList hex → Writes long.toList (doubled hex) →
      ∃ color, parse? short = some color ∧ parse? long = some color) ∧
    (∀ color, parse? color.text = some color) ∧
    ∀ text, (parse? text).bind (fun color => parse? color.text) = parse? text := by
  have denoted {hex : List Char} (areDigits : ∀ c ∈ hex, Text.isHexDigit c)
      (size : hex.length ∈ [3, 4, 6, 8]) : ∃ color, Denotes color hex := by
    rcases ofDigits_cases areDigits with ⟨color, -, denotes⟩ | ⟨-, other⟩
    · exact ⟨color, denotes⟩
    · exact absurd size other
  refine ⟨fun text => ?_, fun text => ⟨?_, ?_⟩, ?_, parse?_text, fun text => ?_⟩
  · exact (ofChars_cases text.toList).imp_left fun ⟨color, _, is, _⟩ => ⟨color, is⟩
  · rintro ⟨color, is⟩
    obtain ⟨hex, writes, denotes⟩ := parse?_eq_some_iff.mp is
    exact ⟨hex, writes, denotes.digits, denotes.length_mem⟩
  · rintro ⟨hex, writes, areDigits, size⟩
    obtain ⟨color, denotes⟩ := denoted areDigits size
    exact ⟨color, parse?_eq_some_iff.mpr ⟨hex, writes, denotes⟩⟩
  · intro hex short long areDigits single writes again
    obtain ⟨color, denotes⟩ := denoted areDigits (by simp at single ⊢; omega)
    exact ⟨color, parse?_eq_some_iff.mpr ⟨hex, writes, denotes⟩,
      parse?_eq_some_iff.mpr ⟨_, again, denotes.doubled single⟩⟩
  · cases is : parse? text with
    | none => rfl
    | some color => rw [Option.bind_some, parse?_text]

theorem short_text_read_as_doubled :
    ∃ color, parse? " #0f8 " = some color ∧ parse? "00ff88" = some color :=
  read_from_hexadecimal_text.2.2.1 ['0', 'f', '8'] _ _ (List.all_eq_true.mp rfl) (by decide)
    ⟨[' '], ['#'], [' '], by decide, .inr rfl, by decide, rfl⟩
    ⟨[], [], [], rfl, .inl rfl, rfl, rfl⟩

example : parse? "#0f88" = some ⟨0, 255, 136, 136⟩ ∧ parse? "#ü12" = none := by decide +kernel

end ScopeCascade.Color
