/-!
# Halves of characters

A character beyond the first 65536 can be written as two escapes of four digits, each of
them one half of it. A half on its own is no character, yet a text can be written that
holds one. Such a half is kept as the private character 0x100000 places above it, which
no text holds for its own sake; its *code* is the number of the half.

## Main definitions

* `Linkage.Text.code`: the number that a character of a text stands for.
* `Linkage.Text.ofCode`: the character that stands for a number.
* `Linkage.Text.codesLE`: texts in the order of their codes.
-/

namespace Linkage.Text

/-- Whether a number is that of a half. -/
def isHalf (n : Nat) : Bool := 0xd800 ≤ n && n ≤ 0xdfff

/-- How far the characters that stand for halves are from them. -/
def halfShift : Nat := 0x100000

/-- **The number that a character stands for.** -/
def code (c : Char) : Nat :=
  if isHalf (c.toNat - halfShift) then c.toNat - halfShift else c.toNat

/-- **The character that stands for a number.** -/
def ofCode (n : Nat) : Char := Char.ofNat (if isHalf n then n + halfShift else n)

/-- The characters of the first 65536 numbers stand for themselves. -/
theorem code_eq_toNat {c : Char} (h : c.toNat < halfShift) : code c = c.toNat := by
  have : c.toNat - halfShift = 0 := by omega
  simp [code, this, isHalf]

/-- A half is found again in the character that stands for it. -/
theorem code_ofCode_of_isHalf {n : Nat} (h : isHalf n = true) : code (ofCode n) = n := by
  have hn : 0xd800 ≤ n ∧ n ≤ 0xdfff := by simpa [isHalf] using h
  have valid : (n + halfShift).isValidChar := Or.inr (by simp only [halfShift]; omega)
  have toNat : (ofCode n).toNat = n + halfShift := by
    rw [ofCode, if_pos h, Char.ofNat, dif_pos valid]
    rfl
  simp [code, toNat, h]

/-- Whether one row of codes is not behind another. -/
def codesLE : List Char → List Char → Bool
  | [], _ => true
  | _ :: _, [] => false
  | c :: cs, d :: ds => code c < code d || (code c == code d && codesLE cs ds)

end Linkage.Text
