import Linkage.Text.Blank
import Linkage.Text.Digit

/-!
# Reading decimals

The numbers of a description are words such as `1`, `-0.5`, `.5e-3`, `1_000` or `inf`,
with blanks around them and with the decimal digits of any script. The value is the
binary64 number nearest to the decimal, infinite if the decimal is too large.

A text is read in three passes: its characters are brought to seven bits, an underscore
between two digits is dropped, and what is left must be a number as a whole. There is
no hexadecimal form.
-/

namespace Linkage.Decimal

open Text

/-- A character brought to seven bits: a digit of any script is that digit, any blank a
space, and nothing else lies outside them. -/
def toAscii? (c : Char) : Option Char :=
  if c.toNat < 0x7f then some c
  else if isBlank c then some ' '
  else (digit? c).map fun d => Char.ofNat (48 + d)

/-- The text less the blanks at its two ends. -/
def trimmed (cs : List Char) : List Char :=
  ((cs.dropWhile isAsciiBlank).reverse.dropWhile isAsciiBlank).reverse

/-- Drops the underscores of a number, `before` being the character in front. Each has
to stand between two digits. -/
def joined? (before : Char) : List Char → Option (List Char)
  | [] => some []
  | '_' :: c :: cs =>
    if before.isDigit && c.isDigit then (joined? c cs).map (c :: ·) else none
  | c :: cs => if c == '_' then none else (joined? c cs).map (c :: ·)

/-- The value of a list of decimal digits. -/
def digitsValue (cs : List Char) : Nat :=
  cs.foldl (fun n c => 10 * n + (c.toNat - 48)) 0

/-- The exponent of a number, if what follows its digits is one: the letter, a sign or
none, and at least one digit. Nothing at all is the exponent zero. -/
def exponent? : List Char → Option Int
  | [] => some 0
  | c :: cs =>
    if c == 'e' || c == 'E' then
      let (negative, ds) := match cs with
        | '-' :: ds => (true, ds)
        | '+' :: ds => (false, ds)
        | ds => (false, ds)
      if ds.isEmpty || !ds.all Char.isDigit then none
      else
        let n : Int := digitsValue ds
        some (if negative then -n else n)
    else none

/-- **The binary64 number nearest to `m * 10 ^ e`.** Decimals beyond every binary64
number, and below half of the least, are told by their number of digits. -/
def nearest (m : Nat) (e : Int) : Float :=
  let size : Int := (Nat.toDigits 10 m).length + e
  if m = 0 then 0
  else if 310 < size then 1 / 0
  else if size < -330 then 0
  else Float.ofScientific m (e < 0) e.natAbs

/-- The lower case letters of a word. -/
def lowered (cs : List Char) : String := String.ofList (cs.map Char.toLower)

/-- A number without a sign: digits with at most one point among or around them and an
exponent, or one of the words for infinity and for what is not a number. -/
def unsigned? (cs : List Char) : Option Float :=
  match lowered cs with
  | "inf" | "infinity" => some (1 / 0)
  | "nan" => some (0 / 0)
  | _ =>
    let whole := cs.takeWhile Char.isDigit
    let rest := cs.dropWhile Char.isDigit
    let (decimals, rest) := match rest with
      | '.' :: rest => (rest.takeWhile Char.isDigit, rest.dropWhile Char.isDigit)
      | rest => ([], rest)
    if whole.isEmpty && decimals.isEmpty then none
    else (exponent? rest).map fun x =>
      nearest (digitsValue (whole ++ decimals)) (x - decimals.length)

/-- **The number that a text spells**, if it spells one. -/
def read? (s : String) : Option Float := do
  let cs ← s.toList.mapM toAscii?
  match ← joined? ' ' (trimmed cs) with
  | '-' :: cs => (unsigned? cs).map fun x => -x
  | '+' :: cs => unsigned? cs
  | cs => unsigned? cs

end Linkage.Decimal
