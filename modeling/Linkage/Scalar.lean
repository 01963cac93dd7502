/-!
# The numbers a linkage is computed with

Poses, axes, limits and input vectors are numbers of some kind `α`, and nothing in
the library fixes that kind: binary64 numbers when a program runs, an exact field
when one reasons about rotations. `Linkage.Scalar` lists what is asked of `α`.

Three of its operations speak of integers. A description or a configuration may
give a number as an integer of any size, and such a number is *shown* and *compared*
as the integer it is; it becomes a member of `α` only where arithmetic needs one,
and that fails when it is larger than every member of `α`. `Linkage.Number` is a
number as it was given, one kind or the other.

## Main definitions

* `Linkage.Scalar`: the arithmetic, the functions of a rotation, and the comparisons.
* `Linkage.Number`: a number as given, with its exact comparison `Linkage.Number.le`
  and its conversion `Linkage.Number.toScalar?`.
-/

namespace Linkage

/-- **What a kind of number has to offer**: the four operations, the square root and
the two circular functions, and comparisons that are decided exactly, also against
an integer. `ofInt?` is the member of `α` nearest to an integer, or nothing if the
integer lies beyond them all. -/
class Scalar (α : Type) extends Add α, Sub α, Mul α, Div α, Neg α, Zero α, One α where
  sqrt : α → α
  sin : α → α
  cos : α → α
  ofInt? : Int → Option α
  le : α → α → Bool
  leInt : α → Int → Bool
  intLe : Int → α → Bool

/-! ### Binary64 numbers -/

/-- A finite binary64 number against an integer: `m * 2 ^ e` is compared with `n` after
both are multiplied by the power of two that makes them integers. -/
def compareDyadic (m e n : Int) : Ordering :=
  if 0 ≤ e then compare (m * Nat.pow 2 e.toNat) n else compare m (n * Nat.pow 2 (-e).toNat)

/-- **A binary64 number against an integer**, exactly. A number that is not a number
compares with nothing. -/
def compareInt? (x : Float) (n : Int) : Option Ordering :=
  match x.toModel.unpack with
  | .notANumber => none
  | .infinity .positive => some .gt
  | .infinity .negative => some .lt
  | .zero _ => some (compare 0 n)
  | .finite .positive m e _ => some (compareDyadic m e n)
  | .finite .negative m e _ => some (compareDyadic (-m) e n)

/-- The binary64 number nearest to an integer, ties to the even one; an integer that
rounds beyond the largest has none. -/
def nearestFloat? (n : Int) : Option Float :=
  let x := Float.ofInt n
  if x.isFinite then some x else none

instance : Scalar Float where
  zero := 0
  one := 1
  sqrt := Float.sqrt
  sin := Float.sin
  cos := Float.cos
  ofInt? := nearestFloat?
  le x y := decide (x ≤ y)
  leInt x n := (compareInt? x n).any (·.isLE)
  intLe n x := (compareInt? x n).any (·.isGE)

/-! ### Numbers as given -/

/-- **A number as it was given**: an integer of any size, or a member of `α`. -/
inductive Number (α : Type) where
  | int (n : Int)
  | real (x : α)
  deriving Repr, DecidableEq, Inhabited

namespace Number

variable {α : Type} [Scalar α]

/-- The member of `α` that a given number stands for, if there is one. -/
def toScalar? : Number α → Option α
  | int n => Scalar.ofInt? n
  | real x => some x

/-- **The exact comparison of two given numbers.** -/
def le : Number α → Number α → Bool
  | int m, int n => decide (m ≤ n)
  | int m, real y => Scalar.intLe m y
  | real x, int n => Scalar.leInt x n
  | real x, real y => Scalar.le x y

omit [Scalar α] in
/-- A member of `α` is what it stands for. -/
@[simp]
theorem toScalar?_real [Scalar α] (x : α) : (real x).toScalar? = some x := rfl

end Number

end Linkage
