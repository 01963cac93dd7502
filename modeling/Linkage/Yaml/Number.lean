import Linkage.Decimal.Reader
import Linkage.Fault
import Linkage.Text.Lower
import Linkage.Yaml.Text

/-!
# Numbers of a document

An integer is written with the base two, eight, ten or sixteen, or as parts of a
sixtieth each, as hours, minutes and seconds are. A number with a point may be written
with parts as well; its exponent has a sign. Everywhere digits can be grouped with
underscores.

A plain text is a number if it has one of these forms. The value can be asked for also
of a text that does not, if the document says that it is a number: so there are the two
forms, `Linkage.Yaml.isWhole` and `Linkage.Yaml.isReal`, and beside them the two values,
which are found in every text of the form, and in some others.

## Main definitions

* `Linkage.Yaml.isWhole`, `Linkage.Yaml.isReal`: the forms.
* `Linkage.Yaml.wholeValue`, `Linkage.Yaml.realValue`: the values.
-/

namespace Linkage.Yaml

/-! ### Pieces of a number -/

/-- Whether a number is negative, and the number without its sign. -/
def signed : List Char → Bool × List Char
  | '-' :: cs => (true, cs)
  | '+' :: cs => (false, cs)
  | cs => (false, cs)

/-- What stands between the colons of a text. -/
def pieces : List Char → List (List Char)
  | [] => [[]]
  | c :: cs =>
    if c == ':' then [] :: pieces cs
    else
      match pieces cs with
      | p :: ps => (c :: p) :: ps
      | [] => [[c]]

/-- A digit, or the underscore between groups of them. -/
def isGrouped (isDigit : Char → Bool) (c : Char) : Bool := c == '_' || isDigit c

/-- Digits in groups, the first of them a digit. -/
def isDigits : List Char → Bool
  | [] => false
  | c :: cs => c.isDigit && cs.all (isGrouped Char.isDigit)

/-- One part of sixty, with one or two digits. -/
def isSixtieth : List Char → Bool
  | [c] => c.isDigit
  | [c, d] => '0' ≤ c && c ≤ '5' && d.isDigit
  | _ => false

/-! ### Forms -/

/-- **The form of an integer.** A zero in front is followed by octal digits, or by the
letter of another base. -/
def isWhole (cs : List Char) : Bool :=
  match (signed cs).2 with
  | '0' :: 'b' :: ds => !ds.isEmpty && ds.all (isGrouped fun d => d == '0' || d == '1')
  | '0' :: 'x' :: ds => !ds.isEmpty && ds.all (isGrouped fun d => (hexValue? d).isSome)
  | '0' :: ds => ds.all (isGrouped fun d => '0' ≤ d && d ≤ '7')
  | ds =>
    match pieces ds with
    | p :: ps => isDigits p && ps.all isSixtieth
    | [] => false

/-- The form of an exponent, which may be missing. -/
def isExponent : List Char → Bool
  | [] => true
  | e :: s :: ds =>
    (e == 'e' || e == 'E') && (s == '+' || s == '-') && !ds.isEmpty && ds.all Char.isDigit
  | _ => false

/-- Digits in groups, and an exponent. -/
def isDecimals (cs : List Char) : Bool := isExponent (cs.dropWhile (isGrouped Char.isDigit))

/-- The form of a number with a point after its last part: a single part may have an
exponent, and all but the first of several are sixtieths. -/
def isPointed (cs : List Char) : Bool :=
  let whole := cs.takeWhile (· != '.')
  match cs.dropWhile (· != '.'), pieces whole with
  | '.' :: ds, [p] => isDigits p && isDecimals ds
  | '.' :: ds, p :: ps =>
    isDigits p && ps.all isSixtieth && ds.all (isGrouped Char.isDigit)
  | _, _ => false

/-- **The form of a number with a point.** One that begins with the point has no sign. -/
def isReal (cs : List Char) : Bool :=
  let infinities := [".inf", ".Inf", ".INF"].map String.toList
  let nans := [".nan", ".NaN", ".NAN"].map String.toList
  match cs with
  | '.' :: d :: ds => (d.isDigit && isDecimals ds) || infinities.contains cs || nans.contains cs
  | _ => infinities.contains (signed cs).2 || isPointed (signed cs).2

/-! ### Values -/

/-- The value of a digit in any of the bases. -/
def digitValue? (base : Nat) (c : Char) : Option Nat :=
  (hexValue? c).filter (· < base)

/-- The digits after the letter of a base, if that is there. -/
def afterLetter (base : Nat) : List Char → List Char
  | '0' :: c :: ds =>
    let letter := if base = 2 then 'b' else if base = 8 then 'o' else 'x'
    if base ≠ 10 && c.toLower == letter then ds else '0' :: c :: ds
  | ds => ds

/-- The integer that a text writes, with blanks around it. -/
def whole? (base : Nat) (cs : List Char) : Option Int := do
  let (isNegative, ds) := signed (Decimal.trimmed (← cs.mapM Decimal.toAscii?))
  let ds := afterLetter base ds
  if ds.isEmpty then none
  else
    let n ← ds.foldlM (fun (n : Nat) d => (digitValue? base d).map (base * n + ·)) 0
    return if isNegative then -(n : Int) else n

/-- How many digits a text begins with, after blanks and a sign. -/
def digitCount (cs : List Char) : Nat :=
  let cs := cs.map fun c => (Decimal.toAscii? c).getD '?'
  ((signed (Decimal.trimmed cs)).2.takeWhile Char.isDigit).length

/-- The integer that a text writes; it is a failure if it writes none, or one of too many
decimal digits. -/
def whole (base : Nat) (cs : List Char) : Except (Fault Float) Int :=
  if base = 10 && Value.digitLimit < digitCount cs then .error (.tooManyDigits (digitCount cs))
  else
    match whole? base cs with
    | some n => .ok n
    | none => .error (.notWhole base (String.ofList cs))

/-- **The integer that a text stands for.** -/
def wholeValue (text : List Char) : Except (Fault Float) Int := do
  let (isNegative, ds) := signed (text.filter (· != '_'))
  let n : Int ←
    match ds with
    | [] => .error .emptyInput
    | ['0'] => pure 0
    | '0' :: 'b' :: ds => whole 2 ds
    | '0' :: 'x' :: ds => whole 16 ds
    | '0' :: _ => whole 8 ds
    | _ => do
      let parts ← (pieces ds).mapM (whole 10)
      pure (parts.foldl (fun n p => 60 * n + p) 0)
  return if isNegative then -n else n

/-- The number that a text writes; it is a failure if it writes none. -/
def real (cs : List Char) : Except (Fault Float) Float :=
  match Decimal.read? (String.ofList cs) with
  | some x => .ok x
  | none => .error (.notNumeric (String.ofList cs))

/-- The value of parts of a sixtieth each, the least first, the first worth `unit`. Every
unit must be a number near an integer, even if there is none of it. -/
def sixtieths (unit : Nat) : List Float → Float → Except (Fault Float) Float
  | [], sum => .ok sum
  | x :: xs, sum =>
    match Scalar.ofInt? (unit : Int) with
    | some u => sixtieths (60 * unit) xs (sum + x * u)
    | none => .error .tooLarge

/-- What counts of a text that stands for a number. -/
def realLetters (text : List Char) : List Char := Text.lower (text.filter (· != '_'))

/-- Whether a text is the word for what is not a number. -/
def isNoNumber (text : List Char) : Bool := (signed (realLetters text)).2 == ".nan".toList

/-- **The number that a text stands for.** -/
def realValue (text : List Char) : Except (Fault Float) Float := do
  let cs := realLetters text
  if cs.isEmpty then .error .emptyInput
  else
    let (isNegative, ds) := signed cs
    let x ←
      if ds == ".inf".toList then pure (1 / 0)
      else if isNoNumber text then pure (0 / 0)
      else if ds.contains ':' then do
        let parts ← (pieces ds).mapM real
        sixtieths 1 parts.reverse 0
      else real ds
    return if isNegative then -x else x

end Linkage.Yaml
