import Linkage.Space.Rotation

/-!
# Frames

A frame is a place and a direction: a matrix of four rows that holds a rotation, a
position beside it, and below them a row of three zeros and a one. Frames are
multiplied as the matrices they are. Nothing is assumed of the last row there, so over
binary64 numbers an entry that is not a number reaches its whole row and column.

## Main definitions

* `Linkage.Frame`, with its product and identity.
* `Linkage.Frame.ofParts`, `Linkage.Frame.position`, `Linkage.Frame.rotation`.
* `Linkage.Frame.product`: a list of frames multiplied from left to right.
-/

namespace Linkage

/-- A row of four entries. -/
@[ext]
structure Row4 (α : Type) where
  x : α
  y : α
  z : α
  w : α
  deriving Repr, DecidableEq, Inhabited

/-- **A matrix of four rows.** -/
@[ext]
structure Frame (α : Type) where
  x : Row4 α
  y : Row4 α
  z : Row4 α
  w : Row4 α
  deriving Repr, DecidableEq, Inhabited

variable {α : Type} [Scalar α]

/-- A row times a matrix, every entry the full sum of four products. -/
def Row4.mulFrame (r : Row4 α) (m : Frame α) : Row4 α where
  x := r.x * m.x.x + r.y * m.y.x + r.z * m.z.x + r.w * m.w.x
  y := r.x * m.x.y + r.y * m.y.y + r.z * m.z.y + r.w * m.w.y
  z := r.x * m.x.z + r.y * m.y.z + r.z * m.z.z + r.w * m.w.z
  w := r.x * m.x.w + r.y * m.y.w + r.z * m.z.w + r.w * m.w.w

namespace Frame

/-- The identity. -/
protected def one : Frame α :=
  ⟨⟨1, 0, 0, 0⟩, ⟨0, 1, 0, 0⟩, ⟨0, 0, 1, 0⟩, ⟨0, 0, 0, 1⟩⟩

/-- **The product of two frames.** -/
protected def mul (a b : Frame α) : Frame α :=
  ⟨a.x.mulFrame b, a.y.mulFrame b, a.z.mulFrame b, a.w.mulFrame b⟩

instance : One (Frame α) := ⟨Frame.one⟩
instance : Mul (Frame α) := ⟨Frame.mul⟩

/-- **The frame at a position, turned by a rotation.** -/
def ofParts (p : Vec3 α) (r : Mat3 α) : Frame α where
  x := ⟨r.x.x, r.x.y, r.x.z, p.x⟩
  y := ⟨r.y.x, r.y.y, r.y.z, p.y⟩
  z := ⟨r.z.x, r.z.y, r.z.z, p.z⟩
  w := ⟨0, 0, 0, 1⟩

omit [Scalar α] in
/-- The position of a frame. -/
def position (f : Frame α) : Vec3 α := ⟨f.x.w, f.y.w, f.z.w⟩

omit [Scalar α] in
/-- The rotation of a frame. -/
def rotation (f : Frame α) : Mat3 α :=
  ⟨⟨f.x.x, f.x.y, f.x.z⟩, ⟨f.y.x, f.y.y, f.y.z⟩, ⟨f.z.x, f.z.y, f.z.z⟩⟩

/-- **The product of a list of frames**, from left to right and beginning with the
identity. -/
def product (frames : List (Frame α)) : Frame α :=
  frames.foldl (· * ·) 1

/-- A frame has the position it was made with. -/
@[simp]
theorem position_ofParts (p : Vec3 α) (r : Mat3 α) : (ofParts p r).position = p := rfl

/-- A frame has the rotation it was made with. -/
@[simp]
theorem rotation_ofParts (p : Vec3 α) (r : Mat3 α) : (ofParts p r).rotation = r := rfl

end Frame

end Linkage
