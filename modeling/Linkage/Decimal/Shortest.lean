/-!
# The shortest decimal of a binary64 number

A finite number `m * 2 ^ e` is what every real number of an interval around it rounds
to, and it is written as the decimal of that interval with the fewest digits; of two
such decimals the nearer one, and of two equally near the one that ends in an even
digit. Everything is done on natural numbers: an end of the interval and a point of a
decimal grid are compared after both are brought over one denominator.

## Main definitions

* `Linkage.Decimal.onGrid?`: the point of the grid of the multiples of `10 ^ p` that
  stands for `m * 2 ^ e`, if the interval holds one.
* `Linkage.Decimal.shortest`: the first hit on grids of decreasing width.
-/

namespace Linkage.Decimal

/-- A positive decimal `coefficient * 10 ^ exponent`. -/
structure Digits where
  coefficient : Nat
  exponent : Int
  deriving Repr, DecidableEq, Inhabited

/-- `2 ^ e` for an exponent from zero on, and one for all others. -/
def twos (e : Int) : Nat := Nat.pow 2 e.toNat

/-- `10 ^ p` for an exponent from zero on, and one for all others. -/
def tens (p : Int) : Nat := Nat.pow 10 p.toNat

/-- `v * 2 ^ e / 10 ^ p` as a numerator and a denominator. -/
def ratio (v : Nat) (e p : Int) : Nat × Nat :=
  (v * twos e * tens (-p), tens p * twos (-e))

/-- The floor of the decimal logarithm of `m * 2 ^ e`, or one less: the binary
logarithm times a fraction just below `log 2 / log 10`. -/
def log10Near (m : Nat) (e : Int) : Int :=
  (Nat.log2 m + e) * 30102999 / 100000000

/-- **The multiple of `10 ^ p` that rounds to `m * 2 ^ e`**, if there is one: the
nearer of the two neighbours on the grid, the even one at a tie. The interval of the
number is half a unit wide on either side, a quarter below where the next smaller
number is twice as close, and its ends belong to it when `m` is even. -/
def onGrid? (m : Nat) (e p : Int) : Option Nat :=
  let below := if m = twos 52 ∧ -1074 < e then 1 else 2
  let (v, unit) := ratio (4 * m) (e - 2) p
  let (low, _) := ratio (4 * m - below) (e - 2) p
  let (high, _) := ratio (4 * m + 2) (e - 2) p
  let holds (q : Nat) : Bool :=
    if m % 2 = 0 then decide (low ≤ q * unit) && decide (q * unit ≤ high)
    else decide (low < q * unit) && decide (q * unit < high)
  let q := v / unit
  match holds q, holds (q + 1) with
  | true, true =>
    match compare (2 * v) ((2 * q + 1) * unit) with
    | .lt => some q
    | .gt => some (q + 1)
    | .eq => some (if q % 2 = 0 then q else q + 1)
  | true, false => some q
  | false, true => some (q + 1)
  | false, false => none

/-- **The shortest decimal that rounds to `m * 2 ^ e`**: grids are tried from one wider
than the number down to its seventeenth digit, where a hit is certain. -/
def shortest (m : Nat) (e : Int) : Digits :=
  let top := log10Near m e + 2
  let hit := (List.range 22).findSome? fun (i : Nat) =>
    (onGrid? m e (top - i)).map fun q => Digits.mk q (top - i)
  hit.getD ⟨m, 0⟩

end Linkage.Decimal
