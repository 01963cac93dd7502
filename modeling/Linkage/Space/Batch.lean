import Linkage.Fault
import Linkage.Space.Cells

/-!
# Batches

A function of a vector or a matrix is also used on a whole block of them, of any number
of dimensions. A batch is such a block: a shape and its entries, the last index running
fastest. Two batches of different shapes are brought to a common one by repetition.

The functions of rotations and frames do not go through a batch entry by entry. A batch is
laid out as a grid of numbers, the function is computed on that grid as a whole, and the
result is read off the grid it comes to.

## Main definitions

* `Linkage.Batch`: a shape with as many entries as it has indices.
* `Linkage.Batch.get?`: the entry at an index.
* `Linkage.Batch.map`, `Linkage.Batch.zipWith?`: functions of one and of two arguments.
* `Linkage.Nested`: a block written as lists of lists, with
  `Linkage.Batch.ofNested?` and `Linkage.Batch.toNested`.
* `Linkage.Batch.toGrid`, `Linkage.Batch.ofGrid`: a batch as a grid of numbers.
* `Linkage.Batch.skew`, `Linkage.Batch.ofAxisAngle?`, `Linkage.Batch.ofQuaternion`,
  `Linkage.Batch.ofParts?`, `Linkage.Batch.mul?`, `Linkage.Batch.position`,
  `Linkage.Batch.rotation`.
-/

namespace Linkage

/-! ### Batches -/

/-- **A block of things.** -/
structure Batch (β : Type) where
  shape : List Nat
  entries : List β
  length_entries : entries.length = extent shape

namespace Batch

variable {β γ δ : Type}

/-- The entry at an index. -/
def get? (b : Batch β) (index : List Nat) : Option β :=
  (offset? b.shape index).bind (b.entries[·]?)

/-- The batch with one entry and no dimension. -/
def single (x : β) : Batch β := ⟨[], [x], rfl⟩

/-- **A function of every entry.** -/
def map (f : β → γ) (b : Batch β) : Batch γ :=
  ⟨b.shape, b.entries.map f, by rw [List.length_map, b.length_entries]⟩

/-- A list that is the image of another has its length. -/
theorem length_of_mapM_eq_some {f : β → Option γ} {xs : List β} {ys : List γ}
    (h : xs.mapM f = some ys) : ys.length = xs.length := by
  induction xs generalizing ys with
  | nil =>
    simp only [List.mapM_nil, Option.pure_def, Option.some.injEq] at h
    simp [← h]
  | cons x xs ih =>
    simp only [List.mapM_cons, Option.pure_def, Option.bind_eq_bind, Option.bind_eq_some_iff,
      Option.some.injEq] at h
    obtain ⟨y, -, zs, hzs, rfl⟩ := h
    simp [ih hzs]

/-- The batch of a shape whose entries are given index by index. -/
def tabulate (shape : List Nat) (f : List Nat → β) : Batch β :=
  ⟨shape, (indices shape).map f, by rw [List.length_map, length_indices]⟩

/-- The same where entries may be missing; nothing if one of them is. -/
def tabulate? (shape : List Nat) (f : List Nat → Option β) : Option (Batch β) :=
  match h : (indices shape).mapM f with
  | none => none
  | some entries => some ⟨shape, entries, by rw [length_of_mapM_eq_some h, length_indices]⟩

/-- **A function of the entries of two batches**, brought to their common shape. -/
def zipWith? (f : β → γ → δ) (a : Batch β) (b : Batch γ) : Option (Batch δ) := do
  let shape ← commonShape? a.shape b.shape
  tabulate? shape fun index => do
    return f (← a.get? (sourceIndex a.shape index)) (← b.get? (sourceIndex b.shape index))

end Batch

/-! ### Blocks written as lists of lists -/

/-- A block written as lists of lists. -/
inductive Nested (β : Type) where
  | leaf (x : β)
  | node (xs : List (Nested β))
  deriving Inhabited

namespace Nested

variable {β γ : Type}

mutual

/-- The shape of a block, if it has one: the lists at one depth all have one length. -/
def shape? : Nested β → Option (List Nat)
  | leaf _ => some []
  | node [] => some [0]
  | node (x :: xs) => do
    let shape ← x.shape?
    if allOfShape shape xs then return (xs.length + 1) :: shape else none

/-- Whether all blocks of a list have a shape. -/
def allOfShape (shape : List Nat) : List (Nested β) → Bool
  | [] => true
  | x :: xs => x.shape? == some shape && allOfShape shape xs

end

mutual

/-- The entries of a block. -/
def leaves : Nested β → List β
  | leaf x => [x]
  | node xs => leavesOfAll xs

/-- The entries of a list of blocks. -/
def leavesOfAll : List (Nested β) → List β
  | [] => []
  | x :: xs => x.leaves ++ leavesOfAll xs

end

mutual

/-- A block of blocks as one block. -/
def join : Nested (Nested β) → Nested β
  | leaf x => x
  | node xs => node (joinAll xs)

/-- The blocks of a list, each joined. -/
def joinAll : List (Nested (Nested β)) → List (Nested β)
  | [] => []
  | x :: xs => x.join :: joinAll xs

end

end Nested

namespace Batch

variable {β : Type}

/-- The first `n` runs of a length. -/
def runs (n length : Nat) (xs : List β) : List (List β) :=
  match n with
  | 0 => []
  | n + 1 => xs.take length :: runs n length (xs.drop length)

/-- The entries of a shape as lists of lists. -/
def nest : (shape : List Nat) → List β → Nested β
  | [], xs => match xs with
    | x :: _ => .leaf x
    | [] => .node []
  | n :: shape, xs => .node ((runs n (extent shape) xs).map (nest shape))

/-- **A batch as lists of lists.** -/
def toNested (b : Batch β) : Nested β := nest b.shape b.entries

/-- **The batch that lists of lists describe**, the dimensions of a single cell being
given: the cells are the entries. -/
def ofNested? (cell : List Nat) (block : Nested β) : Option (Batch (List β)) := do
  let full ← block.shape?
  let shape := full.take (full.length - cell.length)
  if shape ++ cell = full then
    let entries := runs (extent shape) (extent cell) block.leaves
    if h : entries.length = extent shape then some ⟨shape, entries, h⟩ else none
  else none

end Batch

/-! ### Batches of vectors, rotations and frames -/

section Cells

variable {α : Type}

/-- A vector of a list of three. -/
def Vec3.ofList? : List α → Option (Vec3 α)
  | [x, y, z] => some ⟨x, y, z⟩
  | _ => none

/-- The vector that a list shows: its first three members. Where there are fewer, the last
of them stands for those that are missing. -/
def Vec3.ofRow? (xs : List α) : Option (Vec3 α) := do
  let component (k : Nat) := xs[min k (xs.length - 1)]?
  return ⟨← component 0, ← component 1, ← component 2⟩

/-- A list of three shows the vector of its members. -/
theorem Vec3.ofRow?_three (x y z : α) : Vec3.ofRow? [x, y, z] = some ⟨x, y, z⟩ := rfl

/-- A quaternion of a list of four. -/
def Quaternion.ofList? : List α → Option (Quaternion α)
  | [w, x, y, z] => some ⟨w, x, y, z⟩
  | _ => none

/-- A row of a list of four. -/
def Row4.ofList? : List α → Option (Row4 α)
  | [x, y, z, w] => some ⟨x, y, z, w⟩
  | _ => none

/-- A matrix of a list of nine, row by row. -/
def Mat3.ofList? (xs : List α) : Option (Mat3 α) := do
  return ⟨← Vec3.ofList? (xs.take 3), ← Vec3.ofList? ((xs.drop 3).take 3),
    ← Vec3.ofList? (xs.drop 6)⟩

/-- A frame of a list of sixteen, row by row. -/
def Frame.ofList? (xs : List α) : Option (Frame α) := do
  return ⟨← Row4.ofList? (xs.take 4), ← Row4.ofList? ((xs.drop 4).take 4),
    ← Row4.ofList? ((xs.drop 8).take 4), ← Row4.ofList? (xs.drop 12)⟩

/-- The components of a vector. -/
def Vec3.toList (v : Vec3 α) : List α := [v.x, v.y, v.z]

/-- The entries of a row. -/
def Row4.toList (r : Row4 α) : List α := [r.x, r.y, r.z, r.w]

/-- The rows of a matrix. -/
def Mat3.rows (m : Mat3 α) : List (List α) := [m.x.toList, m.y.toList, m.z.toList]

/-- The rows of a frame. -/
def Frame.rows (f : Frame α) : List (List α) := [f.x.toList, f.y.toList, f.z.toList, f.w.toList]

namespace Batch

/-- **A batch of cells of another kind**: nothing if one of them is not of that kind. -/
def cells? {β : Type} (cell : List Nat) (ofList? : List α → Option β) (block : Nested α) :
    Option (Batch β) := do
  let b ← ofNested? cell block
  match h : b.entries.mapM ofList? with
  | none => none
  | some entries => some ⟨b.shape, entries, by rw [length_of_mapM_eq_some h, b.length_entries]⟩

/-- A batch of vectors. -/
def vectors? : Nested α → Option (Batch (Vec3 α)) := cells? [3] Vec3.ofList?

/-- A batch of quaternions. -/
def quaternions? : Nested α → Option (Batch (Quaternion α)) := cells? [4] Quaternion.ofList?

/-- **A batch of quaternions**, or what is wrong with the number of their components;
nothing if the block is no batch at all. -/
def readQuaternions? (block : Nested α) : Option (Except (Fault α) (Batch (Quaternion α))) := do
  let width ← (← block.shape?).getLast?
  if width < 4 then return .error (.tooFew 4 width)
  else if 4 < width then return .error (.tooMany 4)
  else (quaternions? block).map .ok

/-- A batch of matrices. -/
def matrices? : Nested α → Option (Batch (Mat3 α)) := cells? [3, 3] Mat3.ofList?

/-- A batch of frames. -/
def frames? : Nested α → Option (Batch (Frame α)) := cells? [4, 4] Frame.ofList?

/-- A batch of numbers. -/
def numbers? : Nested α → Option (Batch α) := cells? [] List.head?

/-- A batch of lists, which all have one length. -/
def rows? (block : Nested α) : Option (Batch (List α)) := do
  let width ← (← block.shape?).getLast?
  ofNested? [width] block

/-- **The vectors that a batch of lists shows.** An empty list shows none. -/
def vectorsShown (b : Batch (List α)) : Except (Fault α) (Batch (Vec3 α)) :=
  match h : b.entries.mapM Vec3.ofRow? with
  | none => .error .emptyInput
  | some entries => .ok ⟨b.shape, entries, by rw [length_of_mapM_eq_some h, b.length_entries]⟩

/-! ### Batches as grids -/

section Grids

variable {β : Type} [Zero α]

/-- What a batch has at an index of its grid, or zeros. -/
def cell (l : Layout α β) (b : Batch β) (i : List Nat) : β :=
  (b.get? i.reverse).getD (l.assemble fun _ => 0)

/-- **A batch as a grid of numbers.** -/
def toGrid (l : Layout α β) (b : Batch β) : Grid α where
  extents := l.extents ++ b.shape.reverse
  entry i := l.part (b.cell l (i.drop l.extents.length)) (i.take l.extents.length)

/-- The grid of a batch holds what the batch has. -/
theorem holds_toGrid (l : Layout α β) (b : Batch β) :
    (b.toGrid l).Holds l b.shape.reverse (b.cell l) where
  extents := rfl
  entry k i hk _ := by
    change l.part (b.cell l ((k ++ i).drop l.extents.length)) ((k ++ i).take l.extents.length) = _
    rw [← hk.length_eq, List.drop_left, List.take_left]

omit [Zero α] in
/-- **The batch that a grid holds.** -/
def ofGrid (l : Layout α β) (g : Grid α) : Batch β :=
  tabulate (g.extents.drop l.extents.length).reverse fun i =>
    l.assemble fun k => g.entry (k ++ i.reverse)

/-- What is known to be something is there. -/
theorem isSome_of_exists {x : Option β} {p : β → Prop} (h : ∃ y, x = some y ∧ p y) :
    x.isSome = true := by
  obtain ⟨y, rfl, -⟩ := h
  rfl

end Grids

/-! ### Batches of rotations and frames -/

variable [Scalar α]

/-- A list of numbers divided by its length as a vector. -/
def unitRow (xs : List α) : List α :=
  let n := Scalar.sqrt (xs.foldl (fun sum x => sum + x * x) 0)
  xs.map (· / n)

/-- The cross products by a batch of vectors. -/
def skew (v : Batch (Vec3 α)) : Batch (Mat3 α) :=
  ofGrid .matrix ((v.toGrid .vector).skew?.get (isSome_of_exists (v.holds_toGrid .vector).skew?))

/-- **The rotations about a batch of axes by a batch of angles.** -/
def ofAxisAngle? (axis : Batch (Vec3 α)) (angle : Batch α) : Option (Batch (Mat3 α)) :=
  ((axis.toGrid .vector).ofAxisAngle? (angle.toGrid (.lone 0))).map (ofGrid .matrix)

/-- **The rotations about a block of axes**, each a list of three or any other number of
components: all of them count for its length, and three are shown. -/
def ofRowsAngle? (axis : Nested α) (angle : Batch α) :
    Option (Except (Fault α) (Batch (Mat3 α))) := do
  match vectors? axis with
  | some v => return .ok (← ofAxisAngle? v angle)
  | none =>
    match ((← rows? axis).map unitRow).vectorsShown with
    | .error f => return .error f
    | .ok v => return .ok (← zipWith? Mat3.ofUnitAxisAngle v angle)

/-- **The rotations of a batch of quaternions.** -/
def ofQuaternion (q : Batch (Quaternion α)) : Batch (Mat3 α) :=
  ofGrid .matrix ((q.toGrid .quaternion).ofQuaternion?.get
    (isSome_of_exists (q.holds_toGrid .quaternion).ofQuaternion?))

/-- **The frames of a batch of positions and a batch of rotations.** -/
def ofParts? (p : Batch (Vec3 α)) (r : Batch (Mat3 α)) : Option (Batch (Frame α)) :=
  ((p.toGrid .vector).ofParts? (r.toGrid .matrix)).map (ofGrid .frame)

/-- **The products of two batches of frames.** -/
def mul? (a b : Batch (Frame α)) : Option (Batch (Frame α)) :=
  ((a.toGrid .frame).matmul? (b.toGrid .frame)).map (ofGrid .frame)

/-- The positions of a batch of frames. -/
def position (f : Batch (Frame α)) : Batch (Vec3 α) := ofGrid .vector (f.toGrid .frame).position

/-- The rotations of a batch of frames. -/
def rotation (f : Batch (Frame α)) : Batch (Mat3 α) := ofGrid .matrix (f.toGrid .frame).rotation

end Batch

end Cells

end Linkage
