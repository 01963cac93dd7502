import Linkage.Text.Half
import Linkage.Text.Printable

/-!
# Quoted text

A text inside a message stands between quotes: single ones, unless it holds a single
quote and no double one. What is not printable is written by its number, in the
shortest of the three widths that holds it, and the backslash and the quote in use are
written after a backslash – so a quoted text occupies one line and says exactly which
characters it holds.
-/

namespace Linkage.Text

/-- The hexadecimal digits of a number, lower case, padded with zeros to a width. -/
def hex (width n : Nat) : String :=
  let digits := Nat.toDigits 16 n
  String.ofList (List.replicate (width - digits.length) '0' ++ digits)

/-- One character between quotes of the given kind. -/
def quoteChar (quote c : Char) : String :=
  if c == quote || c == '\\' then String.ofList ['\\', c]
  else if c == '\n' then "\\n"
  else if c == '\t' then "\\t"
  else if c == '\r' then "\\r"
  else if isPrintable c then c.toString
  else if code c ≤ 0xff then "\\x" ++ hex 2 (code c)
  else if code c ≤ 0xffff then "\\u" ++ hex 4 (code c)
  else "\\U" ++ hex 8 (code c)

/-- **The quote a text is put between**: the double one exactly when the text holds a
single one and no double one. -/
def quoteFor (s : String) : Char :=
  if s.contains '\x27' && !s.contains '"' then '"' else '\x27'

/-- **A quoted text.** -/
def quoted (s : String) : String :=
  let quote := quoteFor s
  quote.toString ++ String.join (s.toList.map (quoteChar quote)) ++ quote.toString

/-- A list of texts: each quoted, between square brackets. -/
def quotedList (xs : List String) : String :=
  "[" ++ ", ".intercalate (xs.map quoted) ++ "]"

end Linkage.Text
