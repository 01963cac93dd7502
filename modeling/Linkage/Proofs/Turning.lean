import Linkage.Proofs.Exact
import Mathlib.LinearAlgebra.UnitaryGroup
import Mathlib.Tactic.LinearCombination
import Mathlib.Tactic.Module

/-!
# Rotations are rotations

A rotation is given by an axis with an angle or by a quaternion, and in both cases its matrix is
`1 + a K + b K²`, where `K` is the cross product by a vector (`Linkage.turn`). Taken three times
a cross product is the same as taken once, but for a factor, so such matrices can be multiplied
without looking at their entries (`Linkage.turn_mul_turn`). They are orthogonal, and have
determinant one, as soon as `a² + n b² = 2 b` for the square `n` of the length of the vector
(`Linkage.turn_mem`). For an axis of length one with `a = sin t` and `b = 1 - cos t`, and for a
quaternion of length one with `a = 2 w` and `b = 2`, that is so.

Neither an axis nor a quaternion need have length one, as both are divided by their length first.
They must not be zero.
-/

namespace Linkage

open Matrix

/-! ### Matrices of three rows -/

namespace Mat3

@[simp]
theorem toMatrix_one : (1 : Mat3 ℝ).toMatrix = 1 := by
  ext i j
  fin_cases i <;> fin_cases j <;> rfl

@[simp]
theorem toMatrix_add (m n : Mat3 ℝ) : (m + n).toMatrix = m.toMatrix + n.toMatrix := by
  ext i j
  fin_cases i <;> fin_cases j <;> rfl

@[simp]
theorem toMatrix_smul (s : ℝ) (m : Mat3 ℝ) : (smul s m).toMatrix = s • m.toMatrix := by
  ext i j
  fin_cases i <;> fin_cases j <;> rfl

@[simp]
theorem toMatrix_mul (m n : Mat3 ℝ) : (m * n).toMatrix = m.toMatrix * n.toMatrix := by
  ext i j
  rw [Matrix.mul_apply, Fin.sum_univ_three]
  fin_cases i <;> fin_cases j <;> rfl

end Mat3

/-! ### Cross products -/

namespace Vec3

variable (v : Vec3 ℝ)

/-- The square of the length of a vector. -/
def normSq : ℝ := v.x * v.x + v.y * v.y + v.z * v.z

theorem toMatrix_skew : v.skew.toMatrix = !![0, -v.z, v.y; v.z, 0, -v.x; -v.y, v.x, 0] := rfl

theorem transpose_skew : v.skew.toMatrixᵀ = -v.skew.toMatrix := by
  rw [toMatrix_skew]
  ext i j
  fin_cases i <;> fin_cases j <;> simp

/-- **A cross product taken three times** is the opposite of what it is taken once, times the
square of the length. -/
theorem skew_cube :
    v.skew.toMatrix * (v.skew.toMatrix * v.skew.toMatrix) = -v.normSq • v.skew.toMatrix := by
  rw [toMatrix_skew, normSq]
  ext i j
  fin_cases i <;> fin_cases j <;> simp [Matrix.mul_apply, Fin.sum_univ_three] <;> ring

end Vec3

/-! ### Turns -/

/-- The identity, a cross product and its square, in some proportion. -/
noncomputable def turn (v : Vec3 ℝ) (a b : ℝ) : Matrix (Fin 3) (Fin 3) ℝ :=
  1 + a • v.skew.toMatrix + b • (v.skew.toMatrix * v.skew.toMatrix)

section Turn

variable (v : Vec3 ℝ) (a b a' b' : ℝ)

theorem turn_zero : turn v 0 0 = 1 := by simp [turn]

theorem transpose_turn : (turn v a b)ᵀ = turn v (-a) b := by
  simp [turn, v.transpose_skew]

/-- **Turns by one vector** are multiplied as polynomials, third powers being first ones. -/
theorem turn_mul_turn : turn v a b * turn v a' b' =
    turn v (a + a' - v.normSq * (a * b' + b * a')) (b + b' + a * a' - v.normSq * (b * b')) := by
  have hcube := v.skew_cube
  unfold turn
  generalize v.skew.toMatrix = k at hcube ⊢
  have hcube' : k * k * k = -v.normSq • k := by rw [mul_assoc, hcube]
  have hfourth : k * k * (k * k) = -v.normSq • (k * k) := by
    rw [mul_assoc, hcube, mul_smul_comm]
  simp only [add_mul, mul_add, one_mul, mul_one, smul_mul_assoc, mul_smul_comm, hcube, hcube',
    hfourth]
  module

theorem det_turn : (turn v a b).det =
    (1 - v.normSq * b) * (1 - v.normSq * b) + v.normSq * (a * a) := by
  rw [turn, Vec3.toMatrix_skew, Matrix.det_fin_three, Vec3.normSq]
  simp
  ring

variable {v a b}

/-- **In the right proportion** a turn is a rotation. -/
theorem turn_mem (h : a * a + v.normSq * (b * b) = 2 * b) :
    turn v a b ∈ specialOrthogonalGroup (Fin 3) ℝ := by
  rw [mem_specialOrthogonalGroup_iff, mem_orthogonalGroup_iff]
  constructor
  · have hfirst : a + -a - v.normSq * (a * b + b * -a) = 0 := by ring
    have hsecond : b + b + a * -a - v.normSq * (b * b) = 0 := by linear_combination -h
    rw [transpose_turn, turn_mul_turn, hfirst, hsecond, turn_zero]
  · rw [det_turn]
    linear_combination v.normSq * h

end Turn

/-! ### Axes -/

namespace Vec3

variable {v : Vec3 ℝ}

theorem normSq_nonneg (v : Vec3 ℝ) : 0 ≤ v.normSq :=
  add_nonneg (add_nonneg (mul_self_nonneg _) (mul_self_nonneg _)) (mul_self_nonneg _)

theorem eq_zero_of_normSq (h : v.normSq = 0) : v.x = 0 ∧ v.y = 0 ∧ v.z = 0 := by
  have hx := mul_self_nonneg v.x
  have hy := mul_self_nonneg v.y
  have hz := mul_self_nonneg v.z
  rw [normSq] at h
  refine ⟨mul_self_eq_zero.1 ?_, mul_self_eq_zero.1 ?_, mul_self_eq_zero.1 ?_⟩ <;> linarith

theorem unit_eq_scale (v : Vec3 ℝ) : v.unit = v.scale v.norm⁻¹ := by
  ext
  · exact div_eq_mul_inv v.x v.norm
  · exact div_eq_mul_inv v.y v.norm
  · exact div_eq_mul_inv v.z v.norm

theorem norm_eq_sqrt (v : Vec3 ℝ) : v.norm = Real.sqrt v.normSq := rfl

theorem normSq_scale (v : Vec3 ℝ) (s : ℝ) : (v.scale s).normSq = s ^ 2 * v.normSq := by
  change v.x * s * (v.x * s) + v.y * s * (v.y * s) + v.z * s * (v.z * s) = _
  rw [normSq]
  ring

/-- A vector that is not zero, divided by its length, has length one. -/
theorem normSq_unit (h : v.normSq ≠ 0) : v.unit.normSq = 1 := by
  have hlength : v.norm ^ 2 = v.normSq := Real.sq_sqrt v.normSq_nonneg
  rw [unit_eq_scale, normSq_scale, inv_pow, hlength, inv_mul_cancel₀ h]

end Vec3

namespace Mat3

theorem toMatrix_ofUnitAxisAngle (axis : Vec3 ℝ) (t : ℝ) :
    (ofUnitAxisAngle axis t).toMatrix = turn axis (Real.sin t) (1 - Real.cos t) := by
  rw [ofUnitAxisAngle]
  simp only [toMatrix_add, toMatrix_smul, toMatrix_mul, toMatrix_one]
  rfl

/-- **A turn about an axis is a rotation**, if the axis is not zero. -/
theorem ofAxisAngle_mem {axis : Vec3 ℝ} (h : axis.normSq ≠ 0) (t : ℝ) :
    (ofAxisAngle axis t).toMatrix ∈ specialOrthogonalGroup (Fin 3) ℝ := by
  rw [ofAxisAngle, toMatrix_ofUnitAxisAngle]
  refine turn_mem ?_
  rw [Vec3.normSq_unit h]
  linear_combination Real.sin_sq_add_cos_sq t

end Mat3

/-! ### Quaternions -/

namespace Quaternion

variable {q : Quaternion ℝ}

/-- The square of the length of a quaternion. -/
def normSq (q : Quaternion ℝ) : ℝ := q.w * q.w + q.x * q.x + q.y * q.y + q.z * q.z

theorem normSq_nonneg (q : Quaternion ℝ) : 0 ≤ q.normSq :=
  add_nonneg (add_nonneg (add_nonneg (mul_self_nonneg _) (mul_self_nonneg _)) (mul_self_nonneg _))
    (mul_self_nonneg _)

theorem eq_zero_of_normSq (h : q.normSq = 0) : q.w = 0 ∧ q.x = 0 ∧ q.y = 0 ∧ q.z = 0 := by
  have hw := mul_self_nonneg q.w
  have hx := mul_self_nonneg q.x
  have hy := mul_self_nonneg q.y
  have hz := mul_self_nonneg q.z
  rw [normSq] at h
  refine ⟨mul_self_eq_zero.1 ?_, mul_self_eq_zero.1 ?_, mul_self_eq_zero.1 ?_,
    mul_self_eq_zero.1 ?_⟩ <;> linarith

/-- A quaternion that is not zero, divided by its length, has length one. -/
theorem normSq_unit (h : q.normSq ≠ 0) : q.unit.normSq = 1 := by
  have hlength : q.norm ^ 2 = q.normSq := Real.sq_sqrt q.normSq_nonneg
  have hquotient : q.unit.normSq = q.normSq / q.norm ^ 2 := by
    change q.w / q.norm * (q.w / q.norm) + q.x / q.norm * (q.x / q.norm) +
      q.y / q.norm * (q.y / q.norm) + q.z / q.norm * (q.z / q.norm) = _
    rw [normSq]
    ring
  rw [hquotient, hlength, div_self h]

theorem toMatrix_toMat (q : Quaternion ℝ) :
    q.toMat.toMatrix = turn ⟨q.x, q.y, q.z⟩ (2 * q.w) 2 := by
  rw [turn, Vec3.toMatrix_skew]
  ext i j
  fin_cases i <;> fin_cases j <;> simp [Mat3.toMatrix, toMat] <;> ring

end Quaternion

/-- **The matrix of a quaternion is a rotation**, if the quaternion is not zero. -/
theorem Mat3.ofQuaternion_mem {q : Quaternion ℝ} (h : q.normSq ≠ 0) :
    (ofQuaternion q).toMatrix ∈ specialOrthogonalGroup (Fin 3) ℝ := by
  rw [ofQuaternion, Quaternion.toMatrix_toMat]
  refine turn_mem ?_
  have hunit := Quaternion.normSq_unit h
  rw [Quaternion.normSq] at hunit
  rw [Vec3.normSq]
  linear_combination 4 * hunit

end Linkage
