import Linkage.Proofs.Forward
import Mathlib.Analysis.SpecialFunctions.Trigonometric.Basic
import Mathlib.LinearAlgebra.Matrix.Notation

/-!
# Chains over the real numbers

Nothing that was said of frames so far depends on the numbers they are made of. Over the real
numbers more can be said, as sums and products are then what they should be: a frame is a matrix
of four rows (`Linkage.Frame.toMatrix`), the product of frames is the product of their matrices,
and the frames at rest with which the products begin are the identity. What a chain comes to is
therefore a product of matrices with two factors for each joint, where the joint is placed
(`Linkage.Joint.placement`) and how it has moved (`Linkage.Joint.displacement`); that is
`Linkage.exists_chainValue`.

An integer that was given stands for a real number, whatever its size. There is one thing left
that the size of an integer decides: a quaternion of four integers is refused if one of them is
too large (`Linkage.Number.areRow`). No member of `α` has this effect.
-/

namespace Linkage

/-! ### Real numbers -/

noncomputable instance : Scalar ℝ where
  sqrt := Real.sqrt
  sin := Real.sin
  cos := Real.cos
  ofInt? n := some n
  le x y := decide (x ≤ y)
  leInt x n := decide (x ≤ n)
  intLe n x := decide (n ≤ x)

/-- Division is found where Mathlib's lemmas have it, and not by way of `Scalar`. -/
noncomputable instance realDiv : Div ℝ := DivInvMonoid.toDiv

/-- The real number that was given. -/
def Number.value : Number ℝ → ℝ
  | int n => n
  | real x => x

/-- **Every number that was given can be computed with.** -/
theorem Number.toScalar_eq (x : Number ℝ) : x.toScalar = .ok x.value := by
  cases x with
  | int n => rfl
  | real x => rfl

/-- The vector of three numbers, and zero for any other list. -/
noncomputable def Vec3.values : List (Number ℝ) → Vec3 ℝ
  | [x, y, z] => ⟨x.value, y.value, z.value⟩
  | _ => Vec3.zero

/-- The quaternion of four numbers, and zero for any other list. -/
noncomputable def Quaternion.values : List (Number ℝ) → Quaternion ℝ
  | [w, x, y, z] => ⟨w.value, x.value, y.value, z.value⟩
  | _ => ⟨0, 0, 0, 0⟩

/-- Numbers that make a vector are three. -/
theorem Vec3.exists_eq_of_ofNumbers {xs : List (Number ℝ)} (h : ∃ p, ofNumbers xs = .ok p) :
    ∃ x y z, xs = [x, y, z] := by
  obtain ⟨p, hp⟩ := h
  obtain ⟨_, hthree, _⟩ := exists_of_bind_eq_ok hp
  unfold three at hthree
  split at hthree
  · exact ⟨_, _, _, rfl⟩
  · cases hthree

theorem Vec3.ofNumbers_eq {xs : List (Number ℝ)} (h : ∃ p, ofNumbers xs = .ok p) :
    ofNumbers xs = .ok (values xs) := by
  obtain ⟨x, y, z, rfl⟩ := exists_eq_of_ofNumbers h
  rw [ofNumbers, values, three, ok_bind]
  simp only [ok_bind, Number.toScalar_eq]
  rfl

theorem Mat3.ofNumbers_eq {xs : List (Number ℝ)} (h : ∃ w x y z, xs = [w, x, y, z])
    (hrow : Number.areRow xs = true) :
    ofNumbers xs = .ok (ofQuaternion (Quaternion.values xs)) := by
  obtain ⟨w, x, y, z, rfl⟩ := h
  rw [ofNumbers, four, ok_bind]
  simp only [hrow, if_true, ok_bind, Number.toScalar_eq]
  rfl

/-! ### Matrices -/

/-- The matrix of three rows. -/
def Mat3.toMatrix (m : Mat3 ℝ) : Matrix (Fin 3) (Fin 3) ℝ :=
  !![m.x.x, m.x.y, m.x.z; m.y.x, m.y.y, m.y.z; m.z.x, m.z.y, m.z.z]

/-- **The matrix of a frame.** -/
def Frame.toMatrix (f : Frame ℝ) : Matrix (Fin 4) (Fin 4) ℝ :=
  !![f.x.x, f.x.y, f.x.z, f.x.w;
     f.y.x, f.y.y, f.y.z, f.y.w;
     f.z.x, f.z.y, f.z.z, f.z.w;
     f.w.x, f.w.y, f.w.z, f.w.w]

/-- **The homogeneous matrix** of a position and a rotation. -/
def homogeneous (p : Vec3 ℝ) (m : Mat3 ℝ) : Matrix (Fin 4) (Fin 4) ℝ :=
  !![m.x.x, m.x.y, m.x.z, p.x;
     m.y.x, m.y.y, m.y.z, p.y;
     m.z.x, m.z.y, m.z.z, p.z;
     0, 0, 0, 1]

namespace Frame

@[simp]
theorem toMatrix_ofParts (p : Vec3 ℝ) (m : Mat3 ℝ) : (ofParts p m).toMatrix = homogeneous p m := rfl

@[simp]
theorem toMatrix_one : (1 : Frame ℝ).toMatrix = 1 := by
  ext i j
  fin_cases i <;> fin_cases j <;> rfl

/-- **Frames are multiplied as the matrices they are.** -/
@[simp]
theorem toMatrix_mul (f g : Frame ℝ) : (f * g).toMatrix = f.toMatrix * g.toMatrix := by
  ext i j
  rw [Matrix.mul_apply, Fin.sum_univ_four]
  fin_cases i <;> fin_cases j <;> rfl

theorem toMatrix_injective : Function.Injective toMatrix := by
  intro f g h
  simpa [toMatrix, Frame.ext_iff, Row4.ext_iff, and_assoc] using h

/-- **The product of frames** is the product of their matrices. -/
theorem toMatrix_product (fs : List (Frame ℝ)) :
    (product fs).toMatrix = (fs.map toMatrix).prod := by
  rw [product]
  induction fs using List.reverseRecOn with
  | nil => exact toMatrix_one
  | append_singleton fs f ih =>
    rw [List.foldl_concat, toMatrix_mul, ih, List.map_append, List.prod_append, List.map_singleton,
      List.prod_singleton]

theorem product_append (fs gs : List (Frame ℝ)) : product (fs ++ gs) = product fs * product gs := by
  apply toMatrix_injective
  rw [toMatrix_mul, toMatrix_product, toMatrix_product, toMatrix_product, List.map_append,
    List.prod_append]

end Frame

/-- The rotation that turns nothing is the identity. -/
theorem Mat3.level_eq_one : (level : Mat3 ℝ) = 1 := by
  have hnorm : Quaternion.norm (⟨1, 0, 0, 0⟩ : Quaternion ℝ) = 1 := by
    change Real.sqrt (1 * 1 + 0 * 0 + 0 * 0 + 0 * 0) = 1
    norm_num
  have hunit : Quaternion.unit (⟨1, 0, 0, 0⟩ : Quaternion ℝ) = ⟨1, 0, 0, 0⟩ := by
    rw [Quaternion.unit, hnorm]
    ext <;> norm_num
  rw [level, ofQuaternion, hunit]
  ext <;> simp [Quaternion.toMat] <;> rfl

/-- The frame at rest is the identity. -/
theorem Frame.rest_eq_one : (rest : Frame ℝ) = 1 := by
  rw [rest, Mat3.level_eq_one]
  rfl

/-- A product may begin with it. -/
theorem Frame.product_rest_cons (fs : List (Frame ℝ)) : product (rest :: fs) = product fs := by
  apply toMatrix_injective
  rw [toMatrix_product, toMatrix_product, List.map_cons, List.prod_cons, rest_eq_one, toMatrix_one,
    one_mul]

/-! ### Joints -/

namespace Joint

/-- **Where a joint is placed**, as a matrix. -/
noncomputable def placement (j : Joint ℝ) : Matrix (Fin 4) (Fin 4) ℝ :=
  homogeneous (Vec3.values j.origin.position)
    (Mat3.ofQuaternion (Quaternion.values j.origin.rotation))

/-- **How a joint has moved**, as a matrix: along its axis, about it, or not at all. -/
noncomputable def displacement (j : Joint ℝ) (x : ℝ) : Matrix (Fin 4) (Fin 4) ℝ :=
  match j.type with
  | .prismatic => homogeneous ((Vec3.values j.axis).scale x) 1
  | .revolute | .continuous => homogeneous Vec3.zero (Mat3.ofAxisAngle (Vec3.values j.axis) x)
  | _ => 1

variable {vs : Variables} {j : Joint ℝ} {e : Except (Fault ℝ) ℝ}

theorem exists_motionAt (h : j.IsFramed vs) {x : ℝ} (he : j.isMoveable = true → e = .ok x) :
    ∃ fs, j.motionAt e = .ok fs ∧ (fs.map Frame.toMatrix).prod = j.displacement x := by
  -- Of the four types, only *fixed* does without an axis and an input.
  have hmove : j.type ≠ .fixed → e = .ok x ∧ Vec3.ofNumbers j.axis = .ok (Vec3.values j.axis) := by
    intro hne
    have hmove : j.isMoveable = true := by simp [isMoveable, JointType.isMoveable, hne]
    exact ⟨he hmove, Vec3.ofNumbers_eq (h.axis hmove)⟩
  unfold motionAt displacement
  rcases h.type with htype | htype | htype | htype
  · rw [htype]
    exact ⟨[], rfl, rfl⟩
  all_goals
    obtain ⟨rfl, haxis⟩ := hmove (by simp [htype])
    rw [htype]
    refine ⟨[_], by simp only [haxis, ok_bind]; rfl, ?_⟩
    simp [Mat3.level_eq_one]

theorem exists_place (h : j.IsFramed vs) (hrow : Number.areRow j.origin.rotation = true) :
    ∃ f, j.origin.place = .ok f ∧ f.toMatrix = j.placement := by
  refine ⟨Frame.ofParts (Vec3.values j.origin.position)
    (Mat3.ofQuaternion (Quaternion.values j.origin.rotation)), ?_, rfl⟩
  rw [Pose.place, Vec3.ofNumbers_eq h.position, Mat3.ofNumbers_eq h.rotation hrow]
  rfl

/-- **The frames of a joint** are there if its quaternion makes up a row and what is read for it
is there. Then they multiply to its place and its motion. -/
theorem exists_framesAt (h : j.IsFramed vs) (hrow : Number.areRow j.origin.rotation = true) {x : ℝ}
    (he : j.isMoveable = true → e = .ok x) :
    ∃ fs, j.framesAt e = .ok fs ∧
      (fs.map Frame.toMatrix).prod = j.placement * j.displacement x := by
  obtain ⟨f, hf, hplace⟩ := exists_place h hrow
  obtain ⟨fs, hfs, hprod⟩ := exists_motionAt h he
  refine ⟨f :: fs, ?_, ?_⟩
  · rw [framesAt, hf, ok_bind, hfs]
    rfl
  · rw [List.map_cons, List.prod_cons, hplace, hprod]

/-- Without either there are no frames. -/
theorem of_framesAt_eq_ok {fs : List (Frame ℝ)} (hok : j.framesAt e = .ok fs) :
    Number.areRow j.origin.rotation = true ∧ (j.isMoveable = true → ∃ x, e = .ok x) := by
  obtain ⟨place, hplace, hok⟩ := exists_of_bind_eq_ok hok
  obtain ⟨motion, hmotion, -⟩ := exists_of_bind_eq_ok hok
  constructor
  · obtain ⟨_, _, hplace⟩ := exists_of_bind_eq_ok hplace
    obtain ⟨m, hm, _⟩ := exists_of_bind_eq_ok hplace
    obtain ⟨⟨w, x, y, z⟩, hfour, hm⟩ := exists_of_bind_eq_ok hm
    rw [four_eq_ok_iff.1 hfour]
    by_contra hrow
    simp only [if_neg hrow] at hm
    cases hm
  · intro hmove
    unfold motionAt at hmotion
    cases htype : j.type with
    | fixed =>
      rw [isMoveable, htype] at hmove
      cases hmove
    | prismatic | revolute | continuous =>
      rw [htype] at hmotion
      obtain ⟨_, _, hmotion⟩ := exists_of_bind_eq_ok hmotion
      obtain ⟨x, hx, _⟩ := exists_of_bind_eq_ok hmotion
      exact ⟨x, hx⟩
    | planar | floating | unknown | other =>
      rw [htype] at hmotion
      cases hmotion

end Joint

/-! ### Chains -/

section Chains

variable {vs : Variables} {js : List (Joint ℝ)} {read : String → Except (Fault ℝ) ℝ}

theorem exists_framesAlong (hframed : ∀ j ∈ js, j.IsFramed vs)
    (hrow : ∀ j ∈ js, Number.areRow j.origin.rotation = true) {x : String → ℝ}
    (hread : ∀ j ∈ js, j.isMoveable = true → read j.name = .ok (x j.name)) :
    ∃ fs, framesAlong read js = .ok fs ∧ (fs.map Frame.toMatrix).prod =
      (js.map fun j => j.placement * j.displacement (x j.name)).prod := by
  induction js with
  | nil => exact ⟨[], rfl, rfl⟩
  | cons j js ih =>
    rw [List.forall_mem_cons] at hframed hrow hread
    obtain ⟨fs, hfs, hprod⟩ := Joint.exists_framesAt hframed.1 hrow.1 hread.1
    obtain ⟨gs, hgs, hprod'⟩ := ih hframed.2 hrow.2 hread.2
    refine ⟨fs ++ gs, ?_, ?_⟩
    · rw [framesAlong, hfs, ok_bind, hgs]
      rfl
    · rw [List.map_append, List.prod_append, hprod, hprod', List.map_cons, List.prod_cons]

/-- **What a chain comes to**, joint after joint: where the joint is placed, and how it has moved
by what is read for it. -/
theorem exists_chainValue (hframed : ∀ j ∈ js, j.IsFramed vs)
    (hrow : ∀ j ∈ js, Number.areRow j.origin.rotation = true) {x : String → ℝ}
    (hread : ∀ j ∈ js, j.isMoveable = true → read j.name = .ok (x j.name)) :
    ∃ m, chainValue read js = .ok m ∧
      m.toMatrix = (js.map fun j => j.placement * j.displacement (x j.name)).prod := by
  obtain ⟨fs, hfs, hprod⟩ := exists_framesAlong hframed hrow hread
  refine ⟨Frame.product (Frame.rest :: fs), ?_, ?_⟩
  · rw [chainValue, hfs]
    rfl
  · rw [Frame.product_rest_cons, Frame.toMatrix_product, hprod]

variable (js read) in
/-- Where something is read for every joint that moves, it can be told by the joint's name. -/
theorem exists_values (h : ∀ j ∈ js, j.isMoveable = true → ∃ y, read j.name = .ok y) :
    ∃ x : String → ℝ, ∀ j ∈ js, j.isMoveable = true → read j.name = .ok (x j.name) := by
  refine ⟨fun name => (read name).toOption.getD 0, fun j hj hmove => ?_⟩
  obtain ⟨y, hy⟩ := h j hj hmove
  simp only [hy]
  rfl

/-- Of a chain that comes to something all quaternions make up rows, and what is read for its
joints is there. -/
theorem of_framesAlong_eq_ok {fs : List (Frame ℝ)} (h : framesAlong read js = .ok fs) :
    ∀ j ∈ js, Number.areRow j.origin.rotation = true ∧
      (j.isMoveable = true → ∃ x, read j.name = .ok x) := by
  induction js generalizing fs with
  | nil => exact fun _ hj => absurd hj List.not_mem_nil
  | cons j js ih =>
    obtain ⟨_, hfirst, h⟩ := exists_of_bind_eq_ok h
    obtain ⟨_, hothers, -⟩ := exists_of_bind_eq_ok h
    exact List.forall_mem_cons.2 ⟨Joint.of_framesAt_eq_ok hfirst, ih hothers⟩

/-- **Chains after one another** come to the product of what each comes to. -/
theorem chainValue_append (ks : List (Joint ℝ)) :
    chainValue read (js ++ ks) =
      (do return (← chainValue read js) * (← chainValue read ks)) := by
  simp only [chainValue, framesAlong_append, bind_assoc, pure_bind, Frame.product_rest_cons,
    Frame.product_append]

end Chains

end Linkage
