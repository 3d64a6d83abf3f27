import Mathlib.Tactic.SplitIfs
import ScopeCascade.FilePath

/-! A text is read back from its bytes, so a path that was made from a text has that text. -/
namespace ScopeCascade

namespace Text

theorem decode_cons (begun : Option Begun) (byte : UInt8) (rest : List UInt8) :
    decode begun (byte :: rest) =
      (decodeNext begun byte.toNat).1 ++ decode (decodeNext begun byte.toNat).2 rest := by
  cases begun <;> rfl

theorem toNat_ofNat_of_lt {byte : Nat} (small : byte < 256) : (UInt8.ofNat byte).toNat = byte := by
  rw [UInt8.toNat_ofNat', Nat.mod_eq_of_lt small]

section Begun

variable {begun : Begun} {byte : Nat}

theorem decode_more (within : begun.low ≤ byte ∧ byte ≤ begun.high) (small : byte < 256)
    (more : begun.missing ≠ 1) (rest : List UInt8) :
    decode (some begun) (UInt8.ofNat byte :: rest) =
      decode (some { code := begun.code * 64 + (byte - 0x80), missing := begun.missing - 1 })
        rest := by
  rw [decode_cons, decodeNext, toNat_ofNat_of_lt small, if_pos within]
  dsimp only
  rw [if_neg more]
  rfl

theorem decode_last (within : begun.low ≤ byte ∧ byte ≤ begun.high) (small : byte < 256)
    (last : begun.missing = 1) (rest : List UInt8) :
    decode (some begun) (UInt8.ofNat byte :: rest) =
      Char.ofNat (begun.code * 64 + (byte - 0x80)) :: decode none rest := by
  rw [decode_cons, decodeNext, toNat_ofNat_of_lt small, if_pos within]
  dsimp only
  rw [if_pos last]
  rfl

end Begun

/-- A second byte is within bounds if the code needs so many bytes, is no surrogate and is none
past the last one. -/
theorem Begun.within_ofFirst (first second mark missing : Nat)
    (continues : 0x80 ≤ second ∧ second ≤ 0xBF) (long : first = 0xE0 → 0xA0 ≤ second)
    (longest : first = 0xF0 → 0x90 ≤ second) (noSurrogate : first = 0xED → second ≤ 0x9F)
    (last : first = 0xF4 → second ≤ 0x8F) :
    (ofFirst first mark missing).low ≤ second ∧ second ≤ (ofFirst first mark missing).high := by
  unfold ofFirst
  dsimp only
  constructor
  · split_ifs <;> omega
  · split_ifs <;> omega

theorem decode_two {lead tail : Nat} (leads : 2 ≤ lead ∧ lead < 32) (tails : tail < 64)
    (rest : List UInt8) :
    decode none (UInt8.ofNat (lead + 0xC0) :: UInt8.ofNat (tail + 0x80) :: rest) =
      Char.ofNat (lead * 64 + tail) :: decode none rest := by
  have begins : decodeFirst (lead + 0xC0) = ([], some (.ofFirst (lead + 0xC0) 0xC0 1)) := by
    rw [decodeFirst, if_neg (by omega), if_pos (by omega)]
  have within := Begun.within_ofFirst (lead + 0xC0) (tail + 0x80) 0xC0 1 (by omega)
    (by omega) (by omega) (by omega) (by omega)
  rw [decode_cons, decodeNext, toNat_ofNat_of_lt (by omega), begins, List.nil_append,
    decode_last within (by omega) rfl]
  simp only [Begun.ofFirst, Nat.add_sub_cancel]

theorem decode_three {lead middle tail : Nat} (leads : lead < 16) (middles : middle < 64)
    (long : lead = 0 → 32 ≤ middle) (noSurrogate : lead = 13 → middle < 32) (tails : tail < 64)
    (rest : List UInt8) :
    decode none (UInt8.ofNat (lead + 0xE0) :: UInt8.ofNat (middle + 0x80) ::
        UInt8.ofNat (tail + 0x80) :: rest) =
      Char.ofNat ((lead * 64 + middle) * 64 + tail) :: decode none rest := by
  have begins : decodeFirst (lead + 0xE0) = ([], some (.ofFirst (lead + 0xE0) 0xE0 2)) := by
    rw [decodeFirst, if_neg (by omega), if_neg (by omega), if_pos (by omega)]
  have within := Begun.within_ofFirst (lead + 0xE0) (middle + 0x80) 0xE0 2 (by omega)
    (by omega) (by omega) (by omega) (by omega)
  rw [decode_cons, decodeNext, toNat_ofNat_of_lt (by omega), begins, List.nil_append,
    decode_more within (by omega) (show 2 ≠ 1 by decide),
    decode_last (by dsimp only; omega) (by omega) rfl]
  simp only [Begun.ofFirst, Nat.add_sub_cancel]

theorem decode_four {lead upper lower tail : Nat} (leads : lead < 5) (uppers : upper < 64)
    (longest : lead = 0 → 16 ≤ upper) (bounded : lead = 4 → upper < 16) (lowers : lower < 64)
    (tails : tail < 64) (rest : List UInt8) :
    decode none (UInt8.ofNat (lead + 0xF0) :: UInt8.ofNat (upper + 0x80) ::
        UInt8.ofNat (lower + 0x80) :: UInt8.ofNat (tail + 0x80) :: rest) =
      Char.ofNat (((lead * 64 + upper) * 64 + lower) * 64 + tail) :: decode none rest := by
  have begins : decodeFirst (lead + 0xF0) = ([], some (.ofFirst (lead + 0xF0) 0xF0 3)) := by
    rw [decodeFirst, if_neg (by omega), if_neg (by omega), if_neg (by omega), if_pos (by omega)]
  have within := Begun.within_ofFirst (lead + 0xF0) (upper + 0x80) 0xF0 3 (by omega)
    (by omega) (by omega) (by omega) (by omega)
  rw [decode_cons, decodeNext, toNat_ofNat_of_lt (by omega), begins, List.nil_append,
    decode_more within (by omega) (show 3 ≠ 1 by decide),
    decode_more (by dsimp only; omega) (by omega) (show 2 ≠ 1 by decide),
    decode_last (by dsimp only; omega) (by omega) rfl]
  simp only [Begun.ofFirst, Nat.add_sub_cancel]

/-- A character is read from its own bytes, whatever stands behind them. -/
theorem decode_utf8EncodeChar (c : Char) (rest : List UInt8) :
    decode none (String.utf8EncodeChar c ++ rest) = c :: decode none rest := by
  have valid : c.val.toNat < 0xD800 ∨ 0xDFFF < c.val.toNat ∧ c.val.toNat < 0x110000 := c.valid
  have same : Char.ofNat c.val.toNat = c := Char.ofNat_toNat c
  unfold String.utf8EncodeChar
  generalize c.val.toNat = code at valid same ⊢
  dsimp only
  split_ifs with one two three
  · rw [List.singleton_append, decode_cons, decodeNext, toNat_ofNat_of_lt (by omega), decodeFirst,
      if_pos (by omega), same]
    rfl
  · have spelled : code / 64 % 32 * 64 + code % 64 = code := by omega
    refine (decode_two (by omega) (by omega) rest).trans ?_
    rw [spelled, same]
  · have spelled : (code / 4096 % 16 * 64 + code / 64 % 64) * 64 + code % 64 = code := by omega
    refine (decode_three (by omega) (by omega) (by omega) (by omega) (by omega) rest).trans ?_
    rw [spelled, same]
  · have spelled : ((code / 262144 % 8 * 64 + code / 4096 % 64) * 64 + code / 64 % 64) * 64 +
        code % 64 = code := by omega
    refine (decode_four (by omega) (by omega) (by omega) (by omega) (by omega) (by omega)
      rest).trans ?_
    rw [spelled, same]

theorem lossy_bytes (text : List Char) : lossy (bytes text) = text := by
  induction text with
  | nil => rfl
  | cons c rest ih => exact (decode_utf8EncodeChar c _).trans (congrArg (c :: ·) ih)

end Text

namespace FilePath

theorem text_ofText (text : String) : (ofText text).text = text := by
  rw [FilePath.text, ofText, Text.lossy_bytes, String.ofList_toList]

example : FilePath.text ⟨[0x2F, 0xE2, 0x82, 0x61, 0xFF, 0xC0, 0xAF]⟩ =
    "/\uFFFDa\uFFFD\uFFFD\uFFFD" := by decide

end FilePath

end ScopeCascade
