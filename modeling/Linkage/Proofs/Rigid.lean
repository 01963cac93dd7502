import Linkage.Proofs.Placement
import Linkage.Proofs.Turning

/-!
# What a robot does not bend

A rigid transform turns and shifts, and does nothing else: its matrix has a rotation in its first
three rows and columns, and below them three zeros and a one. The product of two such matrices is
one again (`Linkage.rigid`), so the frame of a chain is rigid if what its joints contribute is,
and that comes down to their quaternions and axes not being zero
(`Linkage.Robot.compile_rigid`). It does not matter what is read for them.
-/

namespace Linkage

open Matrix

/-! ### Rigid transforms -/

/-- A matrix without its last row and its last column. -/
def upper (m : Matrix (Fin 4) (Fin 4) ℝ) : Matrix (Fin 3) (Fin 3) ℝ :=
  m.submatrix Fin.castSucc Fin.castSucc

/-- Over a last row of three zeros and a one, what is above is multiplied on its own. -/
theorem upper_mul (m : Matrix (Fin 4) (Fin 4) ℝ) {n : Matrix (Fin 4) (Fin 4) ℝ}
    (hn : n 3 = ![0, 0, 0, 1]) : upper (m * n) = upper m * upper n := by
  ext i j
  have hzero : n (Fin.last 3) j.castSucc = 0 := by
    change n 3 j.castSucc = 0
    rw [hn]
    fin_cases j <;> rfl
  rw [upper, submatrix_apply, mul_apply, Fin.sum_univ_castSucc, hzero, mul_zero, add_zero]
  rfl

/-- **The rigid transforms**: a rotation, beside it any position, and below them three zeros and
a one. -/
def rigid : Submonoid (Matrix (Fin 4) (Fin 4) ℝ) where
  carrier := {m | m 3 = ![0, 0, 0, 1] ∧ upper m ∈ specialOrthogonalGroup (Fin 3) ℝ}
  one_mem' := by
    constructor
    · ext j
      fin_cases j <;> rfl
    · have hone : upper 1 = 1 := submatrix_one _ (Fin.castSucc_injective 3)
      rw [hone]
      exact one_mem _
  mul_mem' := by
    rintro m n ⟨hm, hm'⟩ ⟨hn, hn'⟩
    constructor
    · ext j
      rw [mul_apply, Fin.sum_univ_four, hm, hn]
      simp
    · rw [upper_mul m hn]
      exact mul_mem hm' hn'

theorem homogeneous_mem_rigid (p : Vec3 ℝ) {m : Mat3 ℝ}
    (h : m.toMatrix ∈ specialOrthogonalGroup (Fin 3) ℝ) : homogeneous p m ∈ rigid := by
  constructor
  · ext j
    fin_cases j <;> rfl
  · have hupper : upper (homogeneous p m) = m.toMatrix := by
      ext i j
      fin_cases i <;> fin_cases j <;> rfl
    rw [hupper]
    exact h

/-- **A rigid frame** ends in three zeros and a one, and its rotation is one. -/
theorem Frame.of_toMatrix_mem_rigid {f : Frame ℝ} (h : f.toMatrix ∈ rigid) :
    f.w = ⟨0, 0, 0, 1⟩ ∧ f.rotation.toMatrix * f.rotation.toMatrixᵀ = 1 ∧
      f.rotation.toMatrix.det = 1 := by
  obtain ⟨hlast, hrotation⟩ := h
  have hupper : upper f.toMatrix = f.rotation.toMatrix := by
    ext i j
    fin_cases i <;> fin_cases j <;> rfl
  rw [hupper, mem_specialOrthogonalGroup_iff, mem_orthogonalGroup_iff] at hrotation
  refine ⟨?_, hrotation⟩
  ext
  · exact congrFun hlast 0
  · exact congrFun hlast 1
  · exact congrFun hlast 2
  · exact congrFun hlast 3

/-! ### Joints -/

/-- Numbers that are not all zero make a vector that is not zero. -/
theorem Vec3.normSq_values_ne_zero {xs : List (Number ℝ)} (h : ∃ x y z, xs = [x, y, z])
    (hne : ∃ x ∈ xs, x.value ≠ 0) : (values xs).normSq ≠ 0 := by
  intro hzero
  obtain ⟨x, y, z, rfl⟩ := h
  obtain ⟨hx, hy, hz⟩ := eq_zero_of_normSq hzero
  obtain ⟨a, ha, hne⟩ := hne
  simp only [List.mem_cons, List.not_mem_nil, or_false] at ha
  rcases ha with rfl | rfl | rfl
  · exact hne hx
  · exact hne hy
  · exact hne hz

/-- Numbers that are not all zero make a quaternion that is not zero. -/
theorem Quaternion.normSq_values_ne_zero {xs : List (Number ℝ)} (h : ∃ w x y z, xs = [w, x, y, z])
    (hne : ∃ x ∈ xs, x.value ≠ 0) : (values xs).normSq ≠ 0 := by
  intro hzero
  obtain ⟨w, x, y, z, rfl⟩ := h
  obtain ⟨hw, hx, hy, hz⟩ := eq_zero_of_normSq hzero
  obtain ⟨a, ha, hne⟩ := hne
  simp only [List.mem_cons, List.not_mem_nil, or_false] at ha
  rcases ha with rfl | rfl | rfl | rfl
  · exact hne hw
  · exact hne hx
  · exact hne hy
  · exact hne hz

namespace Joint

variable {vs : Variables} {j : Joint ℝ}

/-- **A joint is placed rigidly**, if its quaternion is not zero. -/
theorem placement_mem_rigid (hj : j.IsFramed vs) (h : ∃ x ∈ j.origin.rotation, x.value ≠ 0) :
    j.placement ∈ rigid :=
  homogeneous_mem_rigid _
    (Mat3.ofQuaternion_mem (Quaternion.normSq_values_ne_zero hj.rotation h))

/-- **However far a joint has moved**, it has moved rigidly, if it does not turn about nothing. -/
theorem displacement_mem_rigid (hj : j.IsFramed vs)
    (h : j.type = .revolute ∨ j.type = .continuous → ∃ x ∈ j.axis, x.value ≠ 0) (x : ℝ) :
    j.displacement x ∈ rigid := by
  have hturn : j.type = .revolute ∨ j.type = .continuous →
      homogeneous Vec3.zero (Mat3.ofAxisAngle (Vec3.values j.axis) x) ∈ rigid := by
    intro ht
    have hmove : j.isMoveable = true := by
      rcases ht with ht | ht <;> rw [isMoveable, ht] <;> rfl
    have haxis := Vec3.exists_eq_of_ofNumbers (hj.axis hmove)
    exact homogeneous_mem_rigid _ (Mat3.ofAxisAngle_mem (Vec3.normSq_values_ne_zero haxis (h ht)) x)
  unfold displacement
  cases htype : j.type with
  | prismatic =>
    refine homogeneous_mem_rigid _ ?_
    rw [Mat3.toMatrix_one]
    exact one_mem _
  | revolute => exact hturn (Or.inl htype)
  | continuous => exact hturn (Or.inr htype)
  | fixed | planar | floating | unknown | other => exact one_mem _

end Joint

/-! ### Chains -/

/-- **What a chain comes to is rigid**, if it comes to something. -/
theorem toMatrix_mem_rigid {vs : Variables} {read : String → Except (Fault ℝ) ℝ}
    {js : List (Joint ℝ)} (hframed : ∀ j ∈ js, j.IsFramed vs)
    (hrotation : ∀ j ∈ js, ∃ x ∈ j.origin.rotation, x.value ≠ 0)
    (haxis : ∀ j ∈ js, j.type = .revolute ∨ j.type = .continuous → ∃ x ∈ j.axis, x.value ≠ 0)
    {m : Frame ℝ} (hm : chainValue read js = .ok m) : m.toMatrix ∈ rigid := by
  -- It comes to something only if all is there that it takes, and then it is a product.
  obtain ⟨fs, hfs, -⟩ := exists_of_bind_eq_ok hm
  have hall := of_framesAlong_eq_ok hfs
  obtain ⟨x, hx⟩ := exists_values js read fun j hj => (hall j hj).2
  obtain ⟨n, hn, hprod⟩ := exists_chainValue hframed (fun j hj => (hall j hj).1) hx
  obtain rfl := Except.ok.inj (hm.symm.trans hn)
  rw [hprod]
  refine list_prod_mem (List.forall_mem_map.2 fun j hj => ?_)
  exact mul_mem (Joint.placement_mem_rigid (hframed j hj) (hrotation j hj))
    (Joint.displacement_mem_rigid (hframed j hj) (haxis j hj) (x j.name))

namespace Robot

variable {name : String} {joints : List (Joint ℝ)} {extra : List String} {tree : Tree ℝ}
  {root : String} {requests : List ChainRequest} {weights thresholds : Settings ℝ} {r : Robot ℝ}

/-- **The frame of every chain is rigid**, whatever is read for its joints, if their quaternions
are not zero and those that turn have an axis. It can be computed from every input vector that has
an entry, and from one that has none if no joint reads any. -/
theorem compile_rigid (htree : Tree.ofJoints name joints extra = .ok tree)
    (h : compile tree root (.ok requests) weights thresholds = .ok r)
    (hrotation : ∀ j ∈ joints, ∃ x ∈ j.origin.rotation, x.value ≠ 0)
    (haxis : ∀ j ∈ joints, j.type = .revolute ∨ j.type = .continuous → ∃ x ∈ j.axis, x.value ≠ 0)
    {key : ChainKey} (hkey : key ∈ r.chains) :
    ∃ f, r.frame key.1 key.2 = .ok f ∧ ∀ q : List ℝ,
      (∀ m, ((f.evaluate q).inPass .new).1 = .ok m →
        m.w = ⟨0, 0, 0, 1⟩ ∧ m.rotation.toMatrix * m.rotation.toMatrixᵀ = 1 ∧
          m.rotation.toMatrix.det = 1) ∧
      ((∀ j ∈ joints, Number.areRow j.origin.rotation = true) → fitsWord r.size = true →
        (q = [] → r.size = 0) → ∃ m, ((f.evaluate q).inPass .new).1 = .ok m) := by
  obtain ⟨f, js, hf, hjs, hframed, hvalue⟩ := exists_frame_of_compile htree h hkey
  refine ⟨f, hf, fun q => ⟨fun m hm => ?_, fun hrow hword hq => ?_⟩⟩
  · exact Frame.of_toMatrix_mem_rigid (toMatrix_mem_rigid hframed
      (fun j hj => hrotation j (hjs.subset hj)) (fun j hj => haxis j (hjs.subset hj))
      ((hvalue q).symm.trans hm))
  · obtain ⟨asked, hserve⟩ := exists_serve_of_compile h
    obtain ⟨x, hx⟩ := exists_values js (r.inputs.read q) fun j hj hmove => by
      obtain ⟨v, hv⟩ := (hframed j hj).input hmove
      obtain ⟨i, hi, hindex⟩ := hserve.exists_index_eq hv
      rw [Variables.read, Variables.lookup_eq_ok_iff.2 hv, ok_bind, hindex]
      refine exists_readInput (fun hnil => ?_) (fitsWord_of_lt hi hword)
      exact absurd (hq hnil) (Nat.ne_of_gt (Nat.zero_lt_of_lt hi))
    obtain ⟨m, hm, -⟩ := exists_chainValue hframed (fun j hj => hrow j (hjs.subset hj)) hx
    exact ⟨m, (hvalue q).trans hm⟩

/-- **The crane does not bend**, though its quaternion and its axis have length two. -/
theorem compile_rigid_crane :
    ∃ r f m, compile craneTree "rail" (.ok [.ends "cart" "hook", .tip "hook", .tip "cart"])
        [("slide", .int 1), ("slew", .int 1)] [] = .ok r ∧ r.frame "rail" "hook" = .ok f ∧
      ((f.evaluate [2, 3]).inPass .new).1 = .ok m ∧ m.w = ⟨0, 0, 0, 1⟩ ∧
      m.rotation.toMatrix * m.rotation.toMatrixᵀ = 1 ∧ m.rotation.toMatrix.det = 1 := by
  obtain ⟨r, hok, hchains, hsize⟩ := exists_crane
  have hkey : ("rail", "hook") ∈ r.chains := by
    rw [hchains]
    decide
  have hword : fitsWord r.size = true := by
    rw [hsize]
    rfl
  have hone : (Number.real (1 : ℝ)).value ≠ 0 := one_ne_zero
  have htwo : (Number.int 2 : Number ℝ).value ≠ 0 := Int.cast_ne_zero.2 (by decide)
  have hrotation : ∀ j ∈ craneJoints, ∃ x ∈ j.origin.rotation, x.value ≠ 0 := by
    refine List.forall_mem_cons.2 ⟨⟨_, List.mem_cons_self, hone⟩, ?_⟩
    refine List.forall_mem_cons.2 ⟨⟨_, List.mem_cons_self, htwo⟩, ?_⟩
    exact List.forall_mem_singleton.2 ⟨_, List.mem_cons_self, hone⟩
  have haxis : ∀ j ∈ craneJoints, j.type = .revolute ∨ j.type = .continuous →
      ∃ x ∈ j.axis, x.value ≠ 0 := by
    refine List.forall_mem_cons.2 ⟨fun _ => ⟨_, List.mem_cons_self, hone⟩, ?_⟩
    refine List.forall_mem_cons.2 ⟨fun _ => ⟨.int 2, ?_, htwo⟩, ?_⟩
    · exact List.mem_cons_of_mem _ (List.mem_cons_of_mem _ List.mem_cons_self)
    · exact List.forall_mem_singleton.2 fun _ => ⟨_, List.mem_cons_self, hone⟩
  obtain ⟨f, hf, hall⟩ := compile_rigid ofJoints_crane hok hrotation haxis hkey
  obtain ⟨hrigid, hsome⟩ := hall [2, 3]
  obtain ⟨m, hm⟩ := hsome areRow_crane hword fun hnil => absurd hnil (List.cons_ne_nil _ _)
  exact ⟨r, f, m, hok, hf, hm, hrigid m hm⟩

end Robot

end Linkage
