/-!
# Blank characters

White space in the sense of Unicode: the separators between words, the control
characters that move the carriage, and the four information separators. Words of a
text are what lies between blanks.
-/

namespace Linkage.Text

/-- **The blank characters.** The four information separators `0x1c` to `0x1f` are
among them, and the zero-width space is not. -/
def isBlank (c : Char) : Bool :=
  let n := c.toNat
  (0x09 ≤ n && n ≤ 0x0d) || (0x1c ≤ n && n ≤ 0x20) || n == 0x85 || n == 0xa0 || n == 0x1680
    || (0x2000 ≤ n && n ≤ 0x200a) || n == 0x2028 || n == 0x2029 || n == 0x202f || n == 0x205f
    || n == 0x3000

/-- The blanks among the characters of seven bits that a number may be surrounded by.
The information separators are not among them. -/
def isAsciiBlank (c : Char) : Bool :=
  c == ' ' || (0x09 ≤ c.toNat && c.toNat ≤ 0x0d)

/-- The words of a text, `word` holding the characters of an unfinished one in reverse. -/
def wordsFrom (word : List Char) : List Char → List String
  | [] => if word.isEmpty then [] else [String.ofList word.reverse]
  | c :: cs =>
    if isBlank c then
      if word.isEmpty then wordsFrom [] cs else String.ofList word.reverse :: wordsFrom [] cs
    else wordsFrom (c :: word) cs

/-- **The words of a text**: its maximal runs of characters that are not blank. -/
def words (s : String) : List String :=
  wordsFrom [] s.toList

/-- A character that core takes for white space is blank. -/
theorem isBlank_of_isWhitespace {c : Char} (h : c.isWhitespace = true) : isBlank c = true := by
  simp only [Char.isWhitespace, Bool.or_eq_true, decide_eq_true_eq] at h
  rcases h with ((rfl | rfl) | rfl) | rfl <;> decide

end Linkage.Text
