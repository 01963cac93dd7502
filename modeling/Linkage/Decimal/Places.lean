import Linkage.Decimal.Layout

/-!
# Decimals of a fixed number of places

Values that come out of rotations and products are compared up to some decimal place. A
value below a limit is written with that many decimal places, and any other with as many
after the first digit and an exponent. Both round the exact value of the number, a half
going to the even neighbour.

## Main definitions

* `Linkage.Decimal.roundDiv`: the nearest integer to a quotient.
* `Linkage.Decimal.Rounding`: how many places, and where the exponents begin.
* `Linkage.Decimal.rounded`: a binary64 number to nine places.
-/

namespace Linkage.Decimal

/-- **The nearest integer to `num / den`**, the even one at a tie. -/
def roundDiv (num den : Nat) : Nat :=
  let q := num / den
  match compare (2 * (num % den)) den with
  | .lt => q
  | .gt => q + 1
  | .eq => if q % 2 = 0 then q else q + 1

/-- A rounded quotient is within half a unit of the quotient. -/
theorem two_mul_roundDiv_mul_sub_le (num den : Nat) (h : 0 < den) :
    2 * (roundDiv num den * den) ≤ 2 * num + den ∧
      2 * num ≤ 2 * (roundDiv num den * den) + den := by
  have hdiv := Nat.div_add_mod num den
  have hmod := Nat.mod_lt num h
  have hmul : (num / den + 1) * den = den * (num / den) + den := by
    rw [Nat.add_mul, Nat.one_mul, Nat.mul_comm]
  have hmul' : num / den * den = den * (num / den) := Nat.mul_comm ..
  unfold roundDiv
  simp only
  split
  · rename_i hc
    have := Nat.compare_eq_lt.1 hc
    omega
  · rename_i hc
    have := Nat.compare_eq_gt.1 hc
    omega
  · rename_i hc
    have := Nat.compare_eq_eq.1 hc
    split <;> omega

/-- A count of the last place as a number with `places` places. -/
def placed (places n : Nat) : String :=
  let ds := digitsOf n
  let ds := List.replicate (places + 1 - ds.length) '0' ++ ds
  let whole := ds.length - places
  String.ofList (ds.take whole) ++ "." ++ String.ofList (ds.drop whole)

/-- `m * 2 ^ e` in units of `10 ^ p`, rounded. -/
def inUnits (m : Nat) (e p : Int) : Nat :=
  let (num, den) := ratio m e p
  roundDiv num den

/-- **How values are rounded**: to so many places, with an exponent of at least `width`
digits from `limit` on. -/
structure Rounding where
  places : Nat
  limit : Nat
  width : Nat
  deriving Repr, DecidableEq, Inhabited

/-- Values have nine places, and an exponent of at least two digits from a thousand
on. -/
def ofValues : Rounding where
  places := 9
  limit := 1000
  width := 2

/-- `m * 2 ^ e` with places after the first digit, and the exponent. A number that rounds
up to a power of ten is written as that power. -/
def scientific (r : Rounding) (m : Nat) (e : Int) : String :=
  let low := log10Near m e
  let (num, den) := ratio m e (low + 1)
  let x := if den ≤ num then low + 1 else low
  let n := inUnits m e (x - r.places)
  let (n, x) := if n < tens (r.places + 1) then (n, x) else (n / 10, x + 1)
  placed r.places n ++ "e" ++ exponentText r.width x

/-- A positive binary64 number with its places, if it is below the limit. A negative
number that rounds to zero loses its sign. -/
def roundedTo (r : Rounding) (sign : String) (m : Nat) (e : Int) : String :=
  if m * twos e < r.limit * twos (-e) then
    let n := inUnits m e (-r.places)
    (if n = 0 then "" else sign) ++ placed r.places n
  else sign ++ scientific r m e

/-- **A binary64 number to nine places.** -/
def rounded (x : Float) : String :=
  match x.toModel.unpack with
  | .notANumber => "nan"
  | .infinity s => signText s ++ "inf"
  | .zero _ => placed ofValues.places 0
  | .finite s m e _ => roundedTo ofValues (signText s) m e

end Linkage.Decimal
