import Linkage.Scalar
import Linkage.Space.Shape

/-!
# Grids

The functions of rotations and frames are computed for a whole block of them at once: a
component is taken of all vectors together, a matrix is stacked from blocks of its
entries, and a frame is written into a block of zeros part by part. A grid is such a
block of numbers, and what is done to it here is done to all of it.

Extents and indices run from the last dimension to the first. In that order the
dimensions of a single vector or matrix come in front, and those of the batch follow,
however many there are. An entry has a meaning only at an index that lies within the
extents.

## Main definitions

* `Linkage.Grid`, with `Linkage.Grid.zipWith?` for arithmetic between grids of different
  extents, which are brought together.
* `Linkage.Grid.cut`, `Linkage.Grid.write?`: a part of a grid read and written, which
  `Linkage.Cut` describes dimension by dimension.
* `Linkage.Grid.stack?`, `Linkage.Grid.matmul?`, `Linkage.Grid.norms`.
* `Linkage.Grid.skew?`, `Linkage.Grid.ofAxisAngle?`, `Linkage.Grid.ofQuaternion?`,
  `Linkage.Grid.ofParts?`, `Linkage.Grid.position`, `Linkage.Grid.rotation`.
-/

namespace Linkage

/-- **A block of numbers**, its last dimension first. -/
structure Grid (α : Type) where
  extents : List Nat
  entry : List Nat → α

/-! ### Parts of a grid -/

/-- **What a part of a grid keeps of a dimension**: one place, or those below a bound. -/
inductive Cut where
  | only (k : Nat)
  | below (n : Nat)
  deriving Repr, DecidableEq, Inhabited

namespace Cut

/-- The extents of a part. A dimension of which only one place is kept is gone. -/
def extents : List Cut → List Nat → List Nat
  | only _ :: cuts, _ :: rest => extents cuts rest
  | below n :: cuts, m :: rest => min n m :: extents cuts rest
  | _, rest => rest

/-- The index of the whole that an index of a part belongs to. Beyond the last place
stands the last. -/
def index : List Cut → List Nat → List Nat → List Nat
  | only k :: cuts, n :: rest, i => min k (n - 1) :: index cuts rest i
  | below _ :: cuts, _ :: rest, k :: i => k :: index cuts rest i
  | _, _, i => i

/-- The index of a part that an index of the whole belongs to, if the part has it. -/
def within? : List Cut → List Nat → Option (List Nat)
  | only k :: cuts, c :: i => if c = k then within? cuts i else none
  | below n :: cuts, c :: i => if c < n then (within? cuts i).map (c :: ·) else none
  | _, i => some i

end Cut

namespace Grid

variable {α β γ : Type}

/-! ### Entry by entry -/

/-- The grid with one number everywhere. -/
def fill (extents : List Nat) (x : α) : Grid α := ⟨extents, fun _ => x⟩

/-- A function of every entry. -/
def map (f : α → β) (g : Grid α) : Grid β := ⟨g.extents, fun i => f (g.entry i)⟩

/-- **A function of the entries of two grids**, brought to their common extents. -/
def zipWith? (f : α → β → γ) (a : Grid α) (b : Grid β) : Option (Grid γ) := do
  let extents ← commonReversed? a.extents b.extents
  return ⟨extents, fun i => f (a.entry (source a.extents i)) (b.entry (source b.extents i))⟩

/-- A grid repeated until it has the given extents, if they can be had that way. -/
def spread? (extents : List Nat) (g : Grid α) : Option (Grid α) :=
  if commonReversed? g.extents extents = some extents then
    some ⟨extents, fun i => g.entry (source g.extents i)⟩
  else none

/-- The grid with one dimension more behind its last, of extent one. -/
def deepen (g : Grid α) : Grid α := ⟨1 :: g.extents, fun i => g.entry i.tail⟩

/-! ### Parts -/

/-- **A part of a grid.** -/
def cut (cuts : List Cut) (g : Grid α) : Grid α :=
  ⟨Cut.extents cuts g.extents, fun i => g.entry (Cut.index cuts g.extents i)⟩

/-- **A grid with a part of it written anew**, by a grid repeated to the extents of the
part. -/
def write? (g : Grid α) (cuts : List Cut) (h : Grid α) : Option (Grid α) := do
  let h ← h.spread? (Cut.extents cuts g.extents)
  return ⟨g.extents, fun i => (Cut.within? cuts i).elim (g.entry i) h.entry⟩

/-- **Grids of the same extents side by side**, along a dimension of their own. How many
dimensions are to come behind that one is given. -/
def stack? (behind : Nat) : List (Grid α) → Option (Grid α)
  | [] => none
  | g :: gs =>
    if ∀ h ∈ gs, h.extents = g.extents then
      some ⟨g.extents.insertIdx behind (gs.length + 1), fun i =>
        ((g :: gs).getD (i.getD behind 0) g).entry (i.eraseIdx behind)⟩
    else none

/-! ### Arithmetic along dimensions -/

variable [Scalar α]

/-- A sum from left to right. -/
def total : List α → α
  | [] => 0
  | x :: xs => xs.foldl (· + ·) x

/-- The lengths along the last dimension, which is kept with the extent one. -/
def norms (g : Grid α) : Grid α :=
  ⟨1 :: g.extents.tail, fun i => Scalar.sqrt (total ((List.range (g.extents.headD 1)).map fun k =>
    g.entry (k :: i.tail) * g.entry (k :: i.tail)))⟩

/-- The identity matrix of a number of rows. -/
def eye (n : Nat) : Grid α := ⟨[n, n], fun i => if i[0]? = i[1]? then 1 else 0⟩

/-- The entries of the products of matrices of two grids, `n` products in each. The indices
of the batches are brought to those of `s` and `t`. -/
def dot (n : Nat) (s t : List Nat) (a b : Grid α) : List Nat → α
  | c :: r :: i => total ((List.range n).map fun k =>
    a.entry (k :: r :: source s i) * b.entry (c :: k :: source t i))
  | _ => 0

/-- **The products of the matrices of two grids**, whose last two dimensions are those of
the matrices. -/
def matmul? (a b : Grid α) : Option (Grid α) :=
  match a.extents, b.extents with
  | n :: rows :: s, columns :: m :: t => do
    if n = m then return ⟨columns :: rows :: (← commonReversed? s t), dot n s t a b⟩ else none
  | _, _ => none

/-! ### Rotations -/

/-- **The cross products by the vectors of a grid.** -/
def skew? (v : Grid α) : Option (Grid α) := do
  let zeros := fill v.extents.tail 0
  let x := v.cut [.only 0]
  let y := v.cut [.only 1]
  let z := v.cut [.only 2]
  stack? 1 [
    ← stack? 0 [zeros, z.map (- ·), y],
    ← stack? 0 [z, zeros, x.map (- ·)],
    ← stack? 0 [y.map (- ·), x, zeros]]

/-- The grid divided by its lengths along the last dimension. -/
def unit? (g : Grid α) : Option (Grid α) := zipWith? (· / ·) g g.norms

/-- **The rotations about the axes of a grid by the angles of another.** -/
def ofAxisAngle? (axis angle : Grid α) : Option (Grid α) := do
  let axis ← axis.unit?
  let angle := angle.deepen.deepen
  let k ← axis.skew?
  let one ← (eye 3).spread? k.extents
  let first ← zipWith? (· * ·) (angle.map Scalar.sin) k
  let second ← zipWith? (· * ·) (angle.map fun t => 1 - Scalar.cos t) (← k.matmul? k)
  zipWith? (· + ·) (← zipWith? (· + ·) one first) second

/-- The matrices of quaternions of length one, given by their components. -/
def toMat? (w x y z : Grid α) : Option (Grid α) := do
  let xx ← zipWith? (· * ·) x x
  let yy ← zipWith? (· * ·) y y
  let zz ← zipWith? (· * ·) z z
  let wx ← zipWith? (· * ·) w x
  let wy ← zipWith? (· * ·) w y
  let wz ← zipWith? (· * ·) w z
  let xy ← zipWith? (· * ·) x y
  let xz ← zipWith? (· * ·) x z
  let yz ← zipWith? (· * ·) y z
  let two : α := 1 + 1
  let twice (g : Grid α) := g.map (two * ·)
  let rest (g : Grid α) := g.map (1 - two * ·)
  stack? 1 [
    ← stack? 0 [rest (← zipWith? (· + ·) yy zz), twice (← zipWith? (· - ·) xy wz),
      twice (← zipWith? (· + ·) xz wy)],
    ← stack? 0 [twice (← zipWith? (· + ·) xy wz), rest (← zipWith? (· + ·) xx zz),
      twice (← zipWith? (· - ·) yz wx)],
    ← stack? 0 [twice (← zipWith? (· - ·) xz wy), twice (← zipWith? (· + ·) yz wx),
      rest (← zipWith? (· + ·) xx yy)]]

/-- **The rotations of the quaternions of a grid**, which must have four components. -/
def ofQuaternion? (q : Grid α) : Option (Grid α) := do
  let q ← q.unit?
  if q.extents.head? = some 4 then
    toMat? (q.cut [.only 0]) (q.cut [.only 1]) (q.cut [.only 2]) (q.cut [.only 3])
  else none

/-! ### Frames -/

/-- **The frames of the positions of a grid and the rotations of another.** -/
def ofParts? (p r : Grid α) : Option (Grid α) := do
  let batch ← commonReversed? (p.extents.drop 1) (r.extents.drop 2)
  let p ← p.spread? (3 :: batch)
  let r ← r.spread? (3 :: 3 :: batch)
  let blank := fill (4 :: 4 :: batch) 0
  let turned ← blank.write? [.below 3, .below 3] r
  let placed ← turned.write? [.only 3, .below 3] p
  placed.write? [.only 3, .only 3] (fill [] 1)

omit [Scalar α] in
/-- The positions of the frames of a grid. -/
def position (t : Grid α) : Grid α := t.cut [.only 3, .below 3]

omit [Scalar α] in
/-- The rotations of the frames of a grid. -/
def rotation (t : Grid α) : Grid α := t.cut [.below 3, .below 3]

end Grid

end Linkage
