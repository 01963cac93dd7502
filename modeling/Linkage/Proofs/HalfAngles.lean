import Linkage.Proofs.AxisAngle

/-!
# Half angles

A quaternion that turns by an angle is made of the cosine and the sine of half of it. Why half, is
seen from the matrix: the entries of the quaternion are multiplied there in pairs, and in products
of the cosine and the sine of one angle the sine and the cosine of the double angle come up
(`Linkage.Quaternion.toMat_about`).

Rotations that come after one another are multiplied as quaternions just as they are as matrices
(`Linkage.Quaternion.toMat_mul`). For this the matrix is taken without assuming anything of the
length, with the sum of the squares in the place of one (`Linkage.Quaternion.spread`): then all nine
entries of a product are what they should be as polynomials, whatever the numbers are, and length
one is needed only to come back to the matrix in use.

So roll, pitch and yaw are three quaternions, each about an axis of its own, and what is computed
for them is the product of the three (`Linkage.Quaternion.ofHalfAngles_eq`). Its length is one as
theirs is. That it is still divided by its length changes nothing, and what comes of it is first the
roll, then the pitch, then the yaw (`Linkage.Quaternion.ofQuaternion_ofRollPitchYaw`).

Of a quaternion of another length the same is left as of an axis, the sign of a factor. But here not
even the sign is seen in the matrix, as its entries are products of two
(`Linkage.Quaternion.ofQuaternion_scale`). An axis with an angle and a quaternion are therefore two
ways of giving one rotation, and the second has a factor to choose
(`Linkage.Quaternion.ofQuaternion_agrees`).
-/

namespace Linkage

open Matrix

namespace Quaternion

/-! ### Products -/

/-- The product of two quaternions. -/
protected def mul (p q : Quaternion ℝ) : Quaternion ℝ where
  w := p.w * q.w - p.x * q.x - p.y * q.y - p.z * q.z
  x := p.w * q.x + p.x * q.w + p.y * q.z - p.z * q.y
  y := p.w * q.y - p.x * q.z + p.y * q.w + p.z * q.x
  z := p.w * q.z + p.x * q.y - p.y * q.x + p.z * q.w

noncomputable instance : Mul (Quaternion ℝ) := ⟨Quaternion.mul⟩

variable (p q : Quaternion ℝ)

/-- **Lengths are multiplied** with the quaternions. -/
theorem normSq_mul : (p * q).normSq = p.normSq * q.normSq := by
  change normSq (Quaternion.mul p q) = _
  rw [normSq, normSq, normSq, Quaternion.mul]
  ring

/-- **The matrix of a quaternion of any length**, times the square of the length, which stands where
the matrix of a quaternion of length one has a one. -/
def spread : Mat3 ℝ where
  x := ⟨q.normSq - 2 * (q.y * q.y + q.z * q.z), 2 * (q.x * q.y - q.w * q.z),
    2 * (q.x * q.z + q.w * q.y)⟩
  y := ⟨2 * (q.x * q.y + q.w * q.z), q.normSq - 2 * (q.x * q.x + q.z * q.z),
    2 * (q.y * q.z - q.w * q.x)⟩
  z := ⟨2 * (q.x * q.z - q.w * q.y), 2 * (q.y * q.z + q.w * q.x),
    q.normSq - 2 * (q.x * q.x + q.y * q.y)⟩

/-- Of a product it is the product. -/
theorem spread_mul : (p * q).spread = p.spread * q.spread := by
  change (Quaternion.mul p q).spread = Mat3.mul p.spread q.spread
  ext <;> simp only [spread, normSq, Quaternion.mul, Mat3.mul, Vec3.mulMat] <;> ring

variable {p q}

theorem toMat_eq_spread (h : q.normSq = 1) : q.toMat = q.spread := by
  have htwo : (1 + 1 : ℝ) = 2 := one_add_one_eq_two
  rw [spread, h, ← htwo]
  rfl

/-- **Quaternions of length one are multiplied as their matrices are.** -/
theorem toMat_mul (hp : p.normSq = 1) (hq : q.normSq = 1) :
    (p * q).toMat = p.toMat * q.toMat := by
  have hpq : (p * q).normSq = 1 := by rw [normSq_mul, hp, hq, mul_one]
  rw [toMat_eq_spread hp, toMat_eq_spread hq, toMat_eq_spread hpq, spread_mul]

/-- What has length one stays as it is when it is divided by its length. -/
theorem norm_eq_one (h : q.normSq = 1) : q.norm = 1 := by
  change Real.sqrt q.normSq = 1
  rw [h, Real.sqrt_one]

theorem unit_eq_self (h : q.normSq = 1) : q.unit = q := by
  rw [unit, norm_eq_one h]
  ext
  · exact div_one q.w
  · exact div_one q.x
  · exact div_one q.y
  · exact div_one q.z

/-! ### Half of an angle -/

/-- **The quaternion of a turn about an axis**, made of half the angle. -/
noncomputable def about (axis : Vec3 ℝ) (t : ℝ) : Quaternion ℝ where
  w := Real.cos (t / 2)
  x := Real.sin (t / 2) * axis.x
  y := Real.sin (t / 2) * axis.y
  z := Real.sin (t / 2) * axis.z

theorem normSq_about {axis : Vec3 ℝ} (h : axis.normSq = 1) (t : ℝ) : (about axis t).normSq = 1 := by
  rw [Vec3.normSq] at h
  rw [normSq, about]
  linear_combination Real.sin (t / 2) ^ 2 * h + Real.sin_sq_add_cos_sq (t / 2)

/-- **Its matrix turns by the whole angle**, as twice the product of the sine and the cosine of half
an angle is the sine of the angle, and twice the square of the sine is what its cosine lacks to
one. -/
theorem toMat_about (axis : Vec3 ℝ) (t : ℝ) : (about axis t).toMat = Mat3.ofUnitAxisAngle axis t := by
  apply Mat3.toMatrix_injective
  have hvector : (⟨(about axis t).x, (about axis t).y, (about axis t).z⟩ : Vec3 ℝ) =
      axis.scale (Real.sin (t / 2)) := by
    ext
    · exact mul_comm _ _
    · exact mul_comm _ _
    · exact mul_comm _ _
  have hdouble : 2 * (t / 2) = t := by ring
  have hsin : Real.sin (t / 2) * (2 * Real.cos (t / 2)) = Real.sin t := by
    rw [← hdouble, Real.sin_two_mul, hdouble]
    ring
  have hcos : Real.sin (t / 2) * Real.sin (t / 2) * 2 = 1 - Real.cos t := by
    rw [← hdouble, Real.cos_two_mul, hdouble]
    linear_combination 2 * Real.sin_sq_add_cos_sq (t / 2)
  rw [toMatrix_toMat, hvector, turn_scale, Mat3.toMatrix_ofUnitAxisAngle]
  change turn axis (_ * (2 * Real.cos (t / 2))) _ = _
  rw [hsin, hcos]

theorem toMat_about_of_unit {axis : Vec3 ℝ} (h : axis.normSq = 1) (t : ℝ) :
    (about axis t).toMat = Mat3.ofAxisAngle axis t := by
  rw [toMat_about, Mat3.ofAxisAngle, Vec3.unit_eq_self h]

/-! ### Roll, pitch and yaw -/

/-- **Roll, pitch and yaw are three turns**, about the first, the second and the third axis. -/
theorem ofHalfAngles_eq (roll pitch yaw : ℝ) :
    ofHalfAngles (roll / 2) (pitch / 2) (yaw / 2) =
      about ⟨0, 0, 1⟩ yaw * about ⟨0, 1, 0⟩ pitch * about ⟨1, 0, 0⟩ roll := by
  have hsin : ∀ t : ℝ, Scalar.sin t = Real.sin t := fun _ => rfl
  have hcos : ∀ t : ℝ, Scalar.cos t = Real.cos t := fun _ => rfl
  change _ = Quaternion.mul (Quaternion.mul _ _) _
  ext <;> simp only [ofHalfAngles, Quaternion.mul, about, hsin, hcos] <;> ring

/-- **The rotation of roll, pitch and yaw.** The quaternion that is computed from half the angles
has length one, so it stays as it is when it is divided by its length. Its rotation is the one about
the first axis by the roll, then about the second by the pitch, then about the third by the yaw. -/
theorem ofQuaternion_ofRollPitchYaw (roll pitch yaw : ℝ) :
    (ofHalfAngles (roll / 2) (pitch / 2) (yaw / 2)).norm = 1 ∧
    ofRollPitchYaw ⟨roll, pitch, yaw⟩ = ofHalfAngles (roll / 2) (pitch / 2) (yaw / 2) ∧
    Mat3.ofQuaternion (ofRollPitchYaw ⟨roll, pitch, yaw⟩) =
      Mat3.ofAxisAngle ⟨0, 0, 1⟩ yaw * Mat3.ofAxisAngle ⟨0, 1, 0⟩ pitch *
        Mat3.ofAxisAngle ⟨1, 0, 0⟩ roll := by
  have hx : (⟨1, 0, 0⟩ : Vec3 ℝ).normSq = 1 := by norm_num [Vec3.normSq]
  have hy : (⟨0, 1, 0⟩ : Vec3 ℝ).normSq = 1 := by norm_num [Vec3.normSq]
  have hz : (⟨0, 0, 1⟩ : Vec3 ℝ).normSq = 1 := by norm_num [Vec3.normSq]
  have hroll := normSq_about hx roll
  have hpitch := normSq_about hy pitch
  have hyaw := normSq_about hz yaw
  have hupper : (about ⟨0, 0, 1⟩ yaw * about ⟨0, 1, 0⟩ pitch).normSq = 1 := by
    rw [normSq_mul, hyaw, hpitch, mul_one]
  have hall : (about ⟨0, 0, 1⟩ yaw * about ⟨0, 1, 0⟩ pitch * about ⟨1, 0, 0⟩ roll).normSq = 1 := by
    rw [normSq_mul, hupper, hroll, mul_one]
  have hstay : ofRollPitchYaw ⟨roll, pitch, yaw⟩ = ofHalfAngles (roll / 2) (pitch / 2) (yaw / 2) := by
    have htwo : (1 + 1 : ℝ) = 2 := one_add_one_eq_two
    change (ofHalfAngles (roll / (1 + 1)) (pitch / (1 + 1)) (yaw / (1 + 1))).unit = _
    rw [htwo, ofHalfAngles_eq, unit_eq_self hall]
  refine ⟨?_, hstay, ?_⟩
  · rw [ofHalfAngles_eq, norm_eq_one hall]
  · rw [hstay, ofHalfAngles_eq, Mat3.ofQuaternion, unit_eq_self hall, toMat_mul hupper hroll,
      toMat_mul hyaw hpitch, toMat_about_of_unit hx, toMat_about_of_unit hy, toMat_about_of_unit hz]

/-! ### Quaternions of any length -/

/-- Every component times a number, the number on the right. -/
def scale (q : Quaternion ℝ) (k : ℝ) : Quaternion ℝ := ⟨q.w * k, q.x * k, q.y * k, q.z * k⟩

theorem normSq_scale (q : Quaternion ℝ) (k : ℝ) : (q.scale k).normSq = k ^ 2 * q.normSq := by
  rw [normSq, normSq, scale]
  ring

theorem norm_scale (q : Quaternion ℝ) (k : ℝ) : (q.scale k).norm = |k| * q.norm := by
  have hnorm : ∀ p : Quaternion ℝ, p.norm = Real.sqrt p.normSq := fun _ => rfl
  rw [hnorm, hnorm, normSq_scale, Real.sqrt_mul (sq_nonneg k), Real.sqrt_sq_eq_abs]

/-- **Of a factor only the sign is left** when a quaternion is divided by its length. -/
theorem unit_scale (q : Quaternion ℝ) (k : ℝ) : (q.scale k).unit = q.unit.scale (k / |k|) := by
  have hfactor : ∀ x : ℝ, x * k / (|k| * q.norm) = x / q.norm * (k / |k|) := by
    intro x
    rw [mul_comm |k|, mul_div_mul_comm]
  rw [unit, norm_scale]
  ext
  · exact hfactor q.w
  · exact hfactor q.x
  · exact hfactor q.y
  · exact hfactor q.z

/-- **In the matrix the sign is not seen**: every entry is made of products of two components. -/
theorem toMat_scale (q : Quaternion ℝ) {s : ℝ} (hs : s * s = 1) : (q.scale s).toMat = q.toMat := by
  have hpair : ∀ x y : ℝ, x * s * (y * s) = x * y := by
    intro x y
    rw [mul_mul_mul_comm, hs, mul_one]
  simp only [toMat, scale, hpair]

/-- **A factor in front of a quaternion makes no difference** to its rotation, positive or
negative. -/
theorem ofQuaternion_scale (q : Quaternion ℝ) {k : ℝ} (hk : k ≠ 0) :
    Mat3.ofQuaternion (q.scale k) = Mat3.ofQuaternion q := by
  have hsign : k / |k| * (k / |k|) = 1 := by
    rw [div_mul_div_comm, abs_mul_abs_self]
    exact div_self (mul_self_ne_zero.2 hk)
  rw [Mat3.ofQuaternion, unit_scale, toMat_scale _ hsign, ← Mat3.ofQuaternion]

/-- The quaternion made of half an angle has the rotation by the angle. -/
theorem ofQuaternion_about {axis : Vec3 ℝ} (h : axis.normSq = 1) (t : ℝ) :
    Mat3.ofQuaternion (about axis t) = Mat3.ofUnitAxisAngle axis t := by
  rw [Mat3.ofQuaternion, unit_eq_self (normSq_about h t), toMat_about]

/-- A quaternion that is not zero has a length. -/
theorem normSq_ne_zero (h : q ≠ ⟨0, 0, 0, 0⟩) : q.normSq ≠ 0 := by
  intro hzero
  obtain ⟨hw, hx, hy, hz⟩ := eq_zero_of_normSq hzero
  exact h (Quaternion.ext hw hx hy hz)

/-- **The two ways of giving a rotation agree.** An axis that is not zero is a direction of length
one, made as long as the axis. The rotation about it by an angle is that of the quaternion with the
cosine of half the angle and with the sine of half the angle in that direction, and also of every
multiple of this quaternion but zero. What any quaternion but zero gives is a rotation, and all its
multiples but zero give the same. -/
theorem ofQuaternion_agrees {axis : Vec3 ℝ} (haxis : axis ≠ Vec3.zero) (hq : q ≠ ⟨0, 0, 0, 0⟩)
    {k : ℝ} (hk : k ≠ 0) (t : ℝ) :
    (axis.unit.normSq = 1 ∧ 0 < axis.norm ∧ axis.unit.scale axis.norm = axis) ∧
    Mat3.ofAxisAngle axis t = Mat3.ofQuaternion ((about axis.unit t).scale k) ∧
    (Mat3.ofQuaternion q).toMatrix * (Mat3.ofQuaternion q).toMatrixᵀ = 1 ∧
    (Mat3.ofQuaternion q).toMatrix.det = 1 ∧
    Mat3.ofQuaternion (q.scale k) = Mat3.ofQuaternion q := by
  have hlength : axis.normSq ≠ 0 := Vec3.normSq_ne_zero haxis
  have hdirection : axis.unit.normSq = 1 := Vec3.normSq_unit hlength
  have hnorm : 0 < axis.norm :=
    Real.sqrt_pos.2 (lt_of_le_of_ne axis.normSq_nonneg (Ne.symm hlength))
  have hrotation := Mat3.ofQuaternion_mem (normSq_ne_zero hq)
  rw [mem_specialOrthogonalGroup_iff, mem_orthogonalGroup_iff] at hrotation
  refine ⟨⟨hdirection, hnorm, ?_⟩, ?_, hrotation.1, hrotation.2, ofQuaternion_scale q hk⟩
  · rw [axis.unit_eq_scale, Vec3.scale_scale, inv_mul_cancel₀ hnorm.ne', Vec3.scale_one]
  · rw [ofQuaternion_scale _ hk, ofQuaternion_about hdirection, Mat3.ofAxisAngle]

/-- **Half a turn about an axis of length two**, and a quaternion of length five, both taken minus
three times. -/
theorem ofQuaternion_agrees_negative :
    (⟨0, 0, 2⟩ : Vec3 ℝ) ≠ Vec3.zero ∧ (⟨0, 0, 3, 4⟩ : Quaternion ℝ) ≠ ⟨0, 0, 0, 0⟩ ∧
    (-3 : ℝ) ≠ 0 ∧
    Mat3.ofAxisAngle (⟨0, 0, 2⟩ : Vec3 ℝ) Real.pi =
      Mat3.ofQuaternion ((about (⟨0, 0, 2⟩ : Vec3 ℝ).unit Real.pi).scale (-3)) ∧
    (Mat3.ofQuaternion (⟨0, 0, 3, 4⟩ : Quaternion ℝ)).toMatrix.det = 1 ∧
    Mat3.ofQuaternion ((⟨0, 0, 3, 4⟩ : Quaternion ℝ).scale (-3)) =
      Mat3.ofQuaternion ⟨0, 0, 3, 4⟩ := by
  have haxis : (⟨0, 0, 2⟩ : Vec3 ℝ) ≠ Vec3.zero := by
    intro hzero
    have hz : (2 : ℝ) = 0 := congrArg Vec3.z hzero
    norm_num at hz
  have hq : (⟨0, 0, 3, 4⟩ : Quaternion ℝ) ≠ ⟨0, 0, 0, 0⟩ := by
    intro hzero
    have hy : (3 : ℝ) = 0 := congrArg Quaternion.y hzero
    norm_num at hy
  have hk : (-3 : ℝ) ≠ 0 := by norm_num
  obtain ⟨-, hagree, -, hdet, hscale⟩ := ofQuaternion_agrees haxis hq hk Real.pi
  exact ⟨haxis, hq, hk, hagree, hdet, hscale⟩

end Quaternion

end Linkage
