import Linkage.Scalar

/-!
# Vectors and rotations

Vectors of three components, the matrices that act on them, and the two ways in which a
rotation is given here: by an axis with an angle, and by a quaternion. Neither has to be
of length one. Both are divided by their length first, so a zero axis or a zero
quaternion leads to whatever division by zero leads to.

A rotation about an axis is Rodrigues' formula, `1 + sin t • K + (1 - cos t) • K²` with
`K` the cross product by the axis, and every step of it is taken for every entry. Over
binary64 numbers this says where a component that is not a number ends up.

## Main definitions

* `Linkage.Vec3`, `Linkage.Mat3`, `Linkage.Quaternion`.
* `Linkage.Vec3.skew`: the cross product by a vector, as a matrix.
* `Linkage.Mat3.ofAxisAngle`, `Linkage.Mat3.ofQuaternion`.
-/

namespace Linkage

/-- A vector of three components. -/
@[ext]
structure Vec3 (α : Type) where
  x : α
  y : α
  z : α
  deriving Repr, DecidableEq, Inhabited

/-- A matrix of three rows. -/
@[ext]
structure Mat3 (α : Type) where
  x : Vec3 α
  y : Vec3 α
  z : Vec3 α
  deriving Repr, DecidableEq, Inhabited

/-- A quaternion, its real part first. -/
@[ext]
structure Quaternion (α : Type) where
  w : α
  x : α
  y : α
  z : α
  deriving Repr, DecidableEq, Inhabited

variable {α : Type} [Scalar α]

/-! ### Vectors -/

namespace Vec3

/-- The zero vector. -/
protected def zero : Vec3 α := ⟨0, 0, 0⟩

/-- Every component times a number, the number on the right. -/
def scale (v : Vec3 α) (s : α) : Vec3 α := ⟨v.x * s, v.y * s, v.z * s⟩

/-- **The length of a vector**, straight from the sum of the squares. -/
def norm (v : Vec3 α) : α := Scalar.sqrt (v.x * v.x + v.y * v.y + v.z * v.z)

/-- The vector divided by its length. -/
def unit (v : Vec3 α) : Vec3 α :=
  let n := v.norm
  ⟨v.x / n, v.y / n, v.z / n⟩

/-- **The cross product by a vector**, as a matrix. -/
def skew (v : Vec3 α) : Mat3 α :=
  ⟨⟨0, -v.z, v.y⟩, ⟨v.z, 0, -v.x⟩, ⟨-v.y, v.x, 0⟩⟩

/-- A row times a matrix. -/
def mulMat (r : Vec3 α) (m : Mat3 α) : Vec3 α where
  x := r.x * m.x.x + r.y * m.y.x + r.z * m.z.x
  y := r.x * m.x.y + r.y * m.y.y + r.z * m.z.y
  z := r.x * m.x.z + r.y * m.y.z + r.z * m.z.z

end Vec3

/-! ### Matrices -/

namespace Mat3

/-- The identity. -/
protected def one : Mat3 α := ⟨⟨1, 0, 0⟩, ⟨0, 1, 0⟩, ⟨0, 0, 1⟩⟩

/-- The sum, entry by entry. -/
protected def add (a b : Mat3 α) : Mat3 α where
  x := ⟨a.x.x + b.x.x, a.x.y + b.x.y, a.x.z + b.x.z⟩
  y := ⟨a.y.x + b.y.x, a.y.y + b.y.y, a.y.z + b.y.z⟩
  z := ⟨a.z.x + b.z.x, a.z.y + b.z.y, a.z.z + b.z.z⟩

/-- Every entry times a number, the number on the left. -/
def smul (s : α) (a : Mat3 α) : Mat3 α where
  x := ⟨s * a.x.x, s * a.x.y, s * a.x.z⟩
  y := ⟨s * a.y.x, s * a.y.y, s * a.y.z⟩
  z := ⟨s * a.z.x, s * a.z.y, s * a.z.z⟩

/-- **The product**, every entry the full sum of three products. -/
protected def mul (a b : Mat3 α) : Mat3 α := ⟨a.x.mulMat b, a.y.mulMat b, a.z.mulMat b⟩

instance : One (Mat3 α) := ⟨Mat3.one⟩
instance : Add (Mat3 α) := ⟨Mat3.add⟩
instance : Mul (Mat3 α) := ⟨Mat3.mul⟩

/-- The rotation about an axis of length one by an angle. -/
def ofUnitAxisAngle (axis : Vec3 α) (angle : α) : Mat3 α :=
  let k := axis.skew
  1 + smul (Scalar.sin angle) k + smul (1 - Scalar.cos angle) (k * k)

/-- **The rotation about an axis by an angle.** The axis need not have length one, but
must not be zero. -/
def ofAxisAngle (axis : Vec3 α) (angle : α) : Mat3 α := ofUnitAxisAngle axis.unit angle

end Mat3

/-! ### Quaternions -/

namespace Quaternion

/-- The length of a quaternion. -/
def norm (q : Quaternion α) : α :=
  Scalar.sqrt (q.w * q.w + q.x * q.x + q.y * q.y + q.z * q.z)

/-- The quaternion divided by its length. -/
def unit (q : Quaternion α) : Quaternion α :=
  let n := q.norm
  ⟨q.w / n, q.x / n, q.y / n, q.z / n⟩

/-- The matrix of a quaternion of length one. -/
def toMat (q : Quaternion α) : Mat3 α :=
  let two : α := 1 + 1
  { x := ⟨1 - two * (q.y * q.y + q.z * q.z), two * (q.x * q.y - q.w * q.z),
      two * (q.x * q.z + q.w * q.y)⟩
    y := ⟨two * (q.x * q.y + q.w * q.z), 1 - two * (q.x * q.x + q.z * q.z),
      two * (q.y * q.z - q.w * q.x)⟩
    z := ⟨two * (q.x * q.z - q.w * q.y), two * (q.y * q.z + q.w * q.x),
      1 - two * (q.x * q.x + q.y * q.y)⟩ }

/-- **The product of half turns about the three axes**, by half of the given angles: the
quaternion of a roll, then a pitch, then a yaw, before it is divided by its length. -/
def ofHalfAngles (roll pitch yaw : α) : Quaternion α :=
  let cr := Scalar.cos roll
  let sr := Scalar.sin roll
  let cp := Scalar.cos pitch
  let sp := Scalar.sin pitch
  let cy := Scalar.cos yaw
  let sy := Scalar.sin yaw
  { w := cr * cp * cy + sr * sp * sy
    x := sr * cp * cy - cr * sp * sy
    y := cr * sp * cy + sr * cp * sy
    z := cr * cp * sy - sr * sp * cy }

/-- **The quaternion of roll, pitch and yaw**, the angles about the first, second and
third axis. -/
def ofRollPitchYaw (angles : Vec3 α) : Quaternion α :=
  let two : α := 1 + 1
  (ofHalfAngles (angles.x / two) (angles.y / two) (angles.z / two)).unit

end Quaternion

/-- **The rotation of a quaternion**, of any length but zero. -/
def Mat3.ofQuaternion (q : Quaternion α) : Mat3 α := q.unit.toMat

end Linkage
