import Linkage.Proofs.Turning

/-!
# Turns about one axis

Rotations about one axis are told apart by their angles, and everything one does with the rotations
is done with the angles: one after the other they add up, backwards they change their sign, and an
angle of zero does nothing. The axis is what they leave alone.

All of it comes from one place. A rotation about an axis of length one is `1 + a K + b K²` for the
cross product `K` by the axis, with `a = sin t` and `b = 1 - cos t` (`Linkage.turn`). Two of these
are multiplied by taking a third power of `K` for a first one, and what is then found in front of
`K` and of `K²` are the sine and the cosine of a sum (`Linkage.Mat3.ofUnitAxisAngle_mul`). A longer
vector only changes the proportion (`Linkage.turn_scale`), so that turning about the opposite axis
is turning by the opposite angle.

An axis is divided by its length before anything is done with it, and of its length nothing is left
afterwards but the sign of a factor (`Linkage.Vec3.unit_scale`).
-/

namespace Linkage

open Matrix

theorem Mat3.toMatrix_injective : Function.Injective Mat3.toMatrix := by
  intro m n h
  simpa [Mat3.toMatrix, Mat3.ext_iff, Vec3.ext_iff, and_assoc] using h

/-! ### Longer and shorter vectors -/

namespace Vec3

variable (v : Vec3 ℝ) (s t : ℝ)

theorem scale_one : v.scale 1 = v := by
  ext
  · exact mul_one v.x
  · exact mul_one v.y
  · exact mul_one v.z

theorem scale_scale : (v.scale s).scale t = v.scale (s * t) := by
  ext
  · exact mul_assoc v.x s t
  · exact mul_assoc v.y s t
  · exact mul_assoc v.z s t

/-- A vector of length one stays as it is when it is divided by its length. -/
theorem unit_eq_self {v : Vec3 ℝ} (h : v.normSq = 1) : v.unit = v := by
  have hnorm : v.norm = 1 := by rw [norm_eq_sqrt, h, Real.sqrt_one]
  rw [unit_eq_scale, hnorm, inv_one, scale_one]

theorem norm_scale : (v.scale s).norm = |s| * v.norm := by
  rw [norm_eq_sqrt, norm_eq_sqrt, normSq_scale, Real.sqrt_mul (sq_nonneg s), Real.sqrt_sq_eq_abs]

/-- **Of a factor only the sign is left** when a vector is divided by its length. -/
theorem unit_scale : (v.scale s).unit = v.unit.scale (s / |s|) := by
  have hfactor : s * (|s| * v.norm)⁻¹ = v.norm⁻¹ * (s / |s|) := by
    rw [mul_inv, div_eq_mul_inv]
    ring
  rw [unit_eq_scale, unit_eq_scale, norm_scale, scale_scale, scale_scale, hfactor]

theorem unit_scale_of_pos (hs : 0 < s) : (v.scale s).unit = v.unit := by
  rw [unit_scale, abs_of_pos hs, div_self hs.ne', scale_one]

theorem unit_opposite : (⟨-v.x, -v.y, -v.z⟩ : Vec3 ℝ).unit = v.unit.scale (-1) := by
  have hopposite : (⟨-v.x, -v.y, -v.z⟩ : Vec3 ℝ) = v.scale (-1) := by
    ext
    · exact (mul_neg_one v.x).symm
    · exact (mul_neg_one v.y).symm
    · exact (mul_neg_one v.z).symm
  rw [hopposite, unit_scale]
  norm_num

/-- A vector that is not zero has a length. -/
theorem normSq_ne_zero {v : Vec3 ℝ} (h : v ≠ Vec3.zero) : v.normSq ≠ 0 := by
  intro hzero
  obtain ⟨hx, hy, hz⟩ := eq_zero_of_normSq hzero
  exact h (Vec3.ext hx hy hz)

/-- A vector as a column. -/
def toColumn : Fin 3 → ℝ := ![v.x, v.y, v.z]

/-- **The cross product of a vector with itself** is nothing. -/
theorem skew_mulVec_self : v.skew.toMatrix *ᵥ v.toColumn = 0 := by
  rw [toMatrix_skew, toColumn]
  ext i
  fin_cases i <;> simp [Matrix.mulVec, dotProduct, Fin.sum_univ_three] <;> ring

theorem skew_scale : (v.scale s).skew.toMatrix = s • v.skew.toMatrix := by
  rw [toMatrix_skew, toMatrix_skew]
  ext i j
  fin_cases i <;> fin_cases j <;> simp [scale, mul_comm]

end Vec3

/-! ### Turns -/

section Turn

variable (v : Vec3 ℝ) (a b s : ℝ)

/-- **A longer vector changes the proportion** of a turn. -/
theorem turn_scale : turn (v.scale s) a b = turn v (s * a) (s * s * b) := by
  rw [turn, turn, v.skew_scale]
  generalize v.skew.toMatrix = k
  rw [smul_mul_smul_comm, smul_smul, smul_smul, mul_comm a s, mul_comm b (s * s)]

/-- **What one turns about stays where it is.** -/
theorem turn_mulVec_self : turn v a b *ᵥ v.toColumn = v.toColumn := by
  have hnothing := v.skew_mulVec_self
  rw [turn, add_mulVec, add_mulVec, one_mulVec, smul_mulVec, smul_mulVec, ← mulVec_mulVec, hnothing,
    mulVec_zero, smul_zero, smul_zero, add_zero, add_zero]

end Turn

namespace Mat3

/-! ### Axes of length one -/

/-- **Angles add up**: what is found in front of the cross product is the sine of the sum, and in
front of its square what the cosine of the sum lacks to one. -/
theorem ofUnitAxisAngle_mul {axis : Vec3 ℝ} (h : axis.normSq = 1) (a b : ℝ) :
    ofUnitAxisAngle axis a * ofUnitAxisAngle axis b = ofUnitAxisAngle axis (a + b) := by
  apply toMatrix_injective
  have hsin : Real.sin a + Real.sin b - 1 * (Real.sin a * (1 - Real.cos b) +
      (1 - Real.cos a) * Real.sin b) = Real.sin (a + b) := by
    rw [Real.sin_add]
    ring
  have hcos : (1 - Real.cos a) + (1 - Real.cos b) + Real.sin a * Real.sin b -
      1 * ((1 - Real.cos a) * (1 - Real.cos b)) = 1 - Real.cos (a + b) := by
    rw [Real.cos_add]
    ring
  rw [toMatrix_mul, toMatrix_ofUnitAxisAngle, toMatrix_ofUnitAxisAngle, toMatrix_ofUnitAxisAngle,
    turn_mul_turn, h, hsin, hcos]

theorem ofUnitAxisAngle_zero (axis : Vec3 ℝ) : ofUnitAxisAngle axis 0 = 1 := by
  apply toMatrix_injective
  rw [toMatrix_ofUnitAxisAngle, Real.sin_zero, Real.cos_zero, sub_self, turn_zero, toMatrix_one]

/-- **About the opposite axis** one turns the other way. -/
theorem ofUnitAxisAngle_opposite (axis : Vec3 ℝ) (a : ℝ) :
    ofUnitAxisAngle (axis.scale (-1)) a = ofUnitAxisAngle axis (-a) := by
  apply toMatrix_injective
  rw [toMatrix_ofUnitAxisAngle, toMatrix_ofUnitAxisAngle, turn_scale, Real.sin_neg, Real.cos_neg]
  norm_num

/-- **The axis stays where it is**, of whatever length it is. -/
theorem ofAxisAngle_mulVec_self (axis : Vec3 ℝ) (a : ℝ) :
    (ofAxisAngle axis a).toMatrix *ᵥ axis.toColumn = axis.toColumn := by
  rw [ofAxisAngle, toMatrix_ofUnitAxisAngle, axis.unit_eq_scale, turn_scale, turn_mulVec_self]

/-- **The laws of turning about an axis**, which may be of any length but zero. Angles add up, and
an angle of zero turns nothing; every turn is a rotation, whose transpose undoes it, and leaves the
axis where it is. A positive factor in front of the axis makes no difference, and turning about the
opposite axis is turning by the opposite angle. -/
theorem ofAxisAngle_laws {axis : Vec3 ℝ} (h : axis ≠ Vec3.zero) (a b : ℝ) :
    ofAxisAngle axis a * ofAxisAngle axis b = ofAxisAngle axis (a + b) ∧
    ofAxisAngle axis 0 = 1 ∧
    (ofAxisAngle axis a).toMatrix * (ofAxisAngle axis a).toMatrixᵀ = 1 ∧
    (ofAxisAngle axis a).toMatrix.det = 1 ∧
    (ofAxisAngle axis a).toMatrix *ᵥ axis.toColumn = axis.toColumn ∧
    (∀ s, 0 < s → ofAxisAngle (axis.scale s) a = ofAxisAngle axis a) ∧
    ofAxisAngle ⟨-axis.x, -axis.y, -axis.z⟩ a = ofAxisAngle axis (-a) := by
  have hlength : axis.normSq ≠ 0 := Vec3.normSq_ne_zero h
  have hrotation := ofAxisAngle_mem hlength a
  rw [mem_specialOrthogonalGroup_iff, mem_orthogonalGroup_iff] at hrotation
  refine ⟨?_, ?_, hrotation.1, hrotation.2, ?_, fun s hs => ?_, ?_⟩
  · exact ofUnitAxisAngle_mul (Vec3.normSq_unit hlength) a b
  · exact ofUnitAxisAngle_zero axis.unit
  · exact ofAxisAngle_mulVec_self axis a
  · rw [ofAxisAngle, ofAxisAngle, axis.unit_scale_of_pos s hs]
  · rw [ofAxisAngle, ofAxisAngle, axis.unit_opposite, ofUnitAxisAngle_opposite]

/-- **About an axis of length five** half a turn twice is a whole one. -/
theorem ofAxisAngle_laws_long :
    (⟨0, 3, 4⟩ : Vec3 ℝ) ≠ Vec3.zero ∧ (0 : ℝ) < 2 ∧
    ofAxisAngle (⟨0, 3, 4⟩ : Vec3 ℝ) Real.pi * ofAxisAngle ⟨0, 3, 4⟩ Real.pi =
      ofAxisAngle ⟨0, 3, 4⟩ (Real.pi + Real.pi) ∧
    ofAxisAngle ((⟨0, 3, 4⟩ : Vec3 ℝ).scale 2) Real.pi = ofAxisAngle ⟨0, 3, 4⟩ Real.pi := by
  have haxis : (⟨0, 3, 4⟩ : Vec3 ℝ) ≠ Vec3.zero := by
    intro hzero
    have hy : (3 : ℝ) = 0 := congrArg Vec3.y hzero
    norm_num at hy
  obtain ⟨hsum, -, -, -, -, hscale, -⟩ := ofAxisAngle_laws haxis Real.pi Real.pi
  exact ⟨haxis, two_pos, hsum, hscale 2 two_pos⟩

end Mat3

end Linkage
