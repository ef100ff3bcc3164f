import Mathlib.Tactic
import PageExtract.Text.Utf8

/-!
UTF-8 read back: the bytes of a text stand for that text.
-/

set_option autoImplicit false

namespace PageExtract.Text

/-- The bytes of a text. -/
def utf8 (s : List Char) : List UInt8 :=
  s.flatMap utf8Bytes

theorem toNat_toUInt8 {n : Nat} (small : n < 0x100) : n.toUInt8.toNat = n :=
  Nat.mod_eq_of_lt small

theorem toNat_lt (c : Char) : c.toNat < 0x110000 := by
  have valid := c.valid
  simp only [UInt32.isValidChar, Nat.isValidChar] at valid
  change c.val.toNat < _
  omega

theorem continuation?_toUInt8 {n : Nat} (bits : n < 0x40) :
    continuation? (0x80 + n).toUInt8 = some n := by
  have byte : (0x80 + n).toUInt8.toNat = 0x80 + n := toNat_toUInt8 (by omega)
  simp only [continuation?, byte]
  rw [if_pos (by omega), Nat.add_sub_cancel_left]

theorem scalar?_toNat {c : Char} {least : Nat} (enough : least ≤ c.toNat) :
    scalar? least c.toNat = some c := by
  have valid : c.toNat.isValidChar := c.valid
  simp only [scalar?, enough, valid, and_self, ↓reduceIte, Char.ofNat_toNat]

/-- A character is read from its bytes, whatever comes after them. -/
theorem ofUtf8?_utf8Bytes (c : Char) (rest : List UInt8) :
    ofUtf8? (utf8Bytes c ++ rest) = (ofUtf8? rest).map (c :: ·) := by
  have limit := toNat_lt c
  simp only [utf8Bytes]
  split
  · rename_i one
    have lead : c.toNat.toUInt8.toNat = c.toNat := toNat_toUInt8 (by omega)
    rw [List.singleton_append, ofUtf8?.eq_def]
    simp only [lead, one, ↓reduceIte, Char.ofNat_toNat]
  split
  · rename_i beyond two
    have lead : (0xC0 + c.toNat / 0x40).toUInt8.toNat = 0xC0 + c.toNat / 0x40 :=
      toNat_toUInt8 (by omega)
    have whole : (0xC0 + c.toNat / 0x40 - 0xC0) * 0x40 + c.toNat % 0x40 = c.toNat := by omega
    rw [List.cons_append, List.singleton_append, ofUtf8?.eq_def]
    simp only [lead, continuation?_toUInt8 (Nat.mod_lt c.toNat (show 0x40 > 0 by decide)), whole,
      scalar?_toNat (show 0x80 ≤ c.toNat by omega)]
    rw [if_neg (by omega), if_neg (by omega), if_pos (by omega)]
  split
  · rename_i beyond three
    have lead : (0xE0 + c.toNat / 0x1000).toUInt8.toNat = 0xE0 + c.toNat / 0x1000 :=
      toNat_toUInt8 (by omega)
    have whole : ((0xE0 + c.toNat / 0x1000 - 0xE0) * 0x40 + c.toNat / 0x40 % 0x40) * 0x40 +
        c.toNat % 0x40 = c.toNat := by omega
    rw [List.cons_append, List.cons_append, List.singleton_append, ofUtf8?.eq_def]
    simp only [lead, continuation?_toUInt8 (Nat.mod_lt _ (show 0x40 > 0 by decide)), whole,
      scalar?_toNat (show 0x800 ≤ c.toNat by omega)]
    rw [if_neg (by omega), if_neg (by omega), if_neg (by omega), if_pos (by omega)]
  · rename_i beyond
    have lead : (0xF0 + c.toNat / 0x40000).toUInt8.toNat = 0xF0 + c.toNat / 0x40000 :=
      toNat_toUInt8 (by omega)
    have whole : (((0xF0 + c.toNat / 0x40000 - 0xF0) * 0x40 + c.toNat / 0x1000 % 0x40) * 0x40 +
        c.toNat / 0x40 % 0x40) * 0x40 + c.toNat % 0x40 = c.toNat := by omega
    rw [List.cons_append, List.cons_append, List.cons_append, List.singleton_append,
      ofUtf8?.eq_def]
    simp only [lead, continuation?_toUInt8 (Nat.mod_lt _ (show 0x40 > 0 by decide)), whole,
      scalar?_toNat (show 0x10000 ≤ c.toNat by omega)]
    rw [if_neg (by omega), if_neg (by omega), if_neg (by omega), if_neg (by omega)]

/-- A text is read from its bytes. -/
theorem ofUtf8?_utf8 (s : List Char) : ofUtf8? (utf8 s) = some s := by
  induction s with
  | nil => rfl
  | cons c rest ih =>
      rw [utf8, List.flatMap_cons, ofUtf8?_utf8Bytes]
      rw [utf8] at ih
      rw [ih, Option.map_some]

end PageExtract.Text
