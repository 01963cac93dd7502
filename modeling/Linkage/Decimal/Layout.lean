import Linkage.Decimal.Shortest

/-!
# Decimals as text

A decimal is written with its point in place, or with one digit in front of the point
and an exponent. Which of the two, and how much of an exponent is written at least, is a
matter of taste, and stands in a `Linkage.Decimal.Layout`. A number in a message has the
layout `Linkage.Decimal.inMessage`.

## Main definitions

* `Linkage.Decimal.Layout`: the decisions.
* `Linkage.Decimal.Digits.text`: a decimal in a layout.
* `Linkage.Decimal.shown`: a binary64 number in a message.
-/

namespace Linkage.Decimal

/-- **How decimals are written.** The point stands in place for decimal exponents from
`least` on and below `limit`. Any other exponent has a sign and at least `width`
digits. -/
structure Layout where
  least : Int
  limit : Int
  width : Nat
  deriving Repr, DecidableEq, Inhabited

/-- Numbers in messages have their point in place from a ten-thousandth on, up to
sixteen digits in front of it, and otherwise an exponent of at least two digits. -/
def inMessage : Layout where
  least := -4
  limit := 16
  width := 2

/-- The digits of a natural number. -/
def digitsOf (n : Nat) : List Char := Nat.toDigits 10 n

/-- An exponent: a sign and its digits, filled up with zeros. -/
def exponentText (width : Nat) (x : Int) : String :=
  let digits := digitsOf x.natAbs
  let pad := List.replicate (width - digits.length) '0'
  String.ofList ((if x < 0 then '-' else '+') :: pad ++ digits)

/-- Digits with the point after the first `front` of them, zeros being added on either
side as far as the point needs them. There is at least one digit on each side. -/
def pointed (ds : List Char) (front : Int) : String :=
  if front ≤ 0 then "0." ++ String.ofList (List.replicate (-front).toNat '0' ++ ds)
  else
    let lacking := front.toNat - ds.length
    let places := ds.drop front.toNat
    String.ofList (ds.take front.toNat ++ List.replicate lacking '0') ++ "."
      ++ (if places.isEmpty then "0" else String.ofList places)

/-- Digits with the point after the first of them, if there are more. -/
def afterFirst : List Char → String
  | c :: d :: rest => c.toString ++ "." ++ String.ofList (d :: rest)
  | ds => String.ofList ds

/-- **A positive decimal in a layout.** -/
def Digits.text (layout : Layout) (d : Digits) : String :=
  let ds := digitsOf d.coefficient
  let x : Int := ds.length + d.exponent - 1
  if layout.least ≤ x ∧ x < layout.limit then pointed ds (x + 1)
  else afterFirst ds ++ "e" ++ exponentText layout.width x

/-- The sign of a number as text. -/
def signText : Float.Model.UnpackedFloat.Sign → String
  | .positive => ""
  | .negative => "-"

/-- **A binary64 number as text**: the shortest decimal that reads back as it. -/
def shown (x : Float) : String :=
  match x.toModel.unpack with
  | .notANumber => "nan"
  | .infinity s => signText s ++ "inf"
  | .zero s => signText s ++ "0.0"
  | .finite s m e _ => signText s ++ (shortest m e).text inMessage

end Linkage.Decimal
