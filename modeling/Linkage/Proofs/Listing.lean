import Linkage.Proofs.ConstraintValues
import Linkage.Proofs.Dependence

/-!
# Which inputs are listed

Joints that do not move leave nothing in the inputs of a frame, and neither do the place of a
joint or the axis of its motion. What is left are the joints that move, each with the one entry
that its variable reads (`Linkage.Joint.Reads`). Like what frames come to, this is told of nodes
that have been laid out, down to `Linkage.mem_inputs_chainNode`, and then of a robot, whose frames
were built from variables that it still has.

* `Linkage.Robot.Traced.exists_frame_inputs` – the inputs of the frame of a chain;
* `Linkage.Robot.Grounded.inputs_of_controllable`, `Linkage.Robot.Grounded.mem_inputs_of_hard` –
  the inputs of constraints.
-/

namespace Linkage

variable {α : Type}

/-! ### Node by node -/

namespace Node

variable {id : Nat} {i : Int}

@[simp]
theorem mem_inputs_const {x : Number α} : i ∉ (scalar (.const id x)).inputs := by
  rw [mem_inputs_iff]
  simp [input?, children]

@[simp]
theorem mem_inputs_input {v : Variable} :
    i ∈ (scalar (.input v) : Node α).inputs ↔ v.index = i := by
  rw [mem_inputs_iff]
  simp [input?, children]

@[simp]
theorem mem_inputs_difference {first : ScalarExpr α} {others : List (ScalarExpr α)} :
    i ∈ (scalar (.difference id first others)).inputs ↔
      i ∈ (scalar first).inputs ∨ ∃ e ∈ others, i ∈ (scalar e).inputs := by
  rw [mem_inputs_iff]
  simp [input?, children]

@[simp]
theorem mem_inputs_vector {x y z : ScalarExpr α} :
    i ∈ (vector (.build id x y z)).inputs ↔
      i ∈ (scalar x).inputs ∨ i ∈ (scalar y).inputs ∨ i ∈ (scalar z).inputs := by
  rw [mem_inputs_iff]
  simp [input?, children]

@[simp]
theorem mem_inputs_scale {v : VectorExpr α} {s : ScalarExpr α} :
    i ∈ (vector (.scale id v s)).inputs ↔ i ∈ (vector v).inputs ∨ i ∈ (scalar s).inputs := by
  rw [mem_inputs_iff]
  simp [input?, children]

@[simp]
theorem mem_inputs_quaternion {w x y z : Number α} :
    i ∉ (rotation (.quaternion id w x y z)).inputs := by
  rw [mem_inputs_iff]
  simp [input?, children]

@[simp]
theorem mem_inputs_axisAngle {axis : VectorExpr α} {angle : ScalarExpr α} :
    i ∈ (rotation (.axisAngle id axis angle)).inputs ↔
      i ∈ (vector axis).inputs ∨ i ∈ (scalar angle).inputs := by
  rw [mem_inputs_iff]
  simp [input?, children]

@[simp]
theorem mem_inputs_frame {position : VectorExpr α} {r : RotationExpr α} :
    i ∈ (frame (.build id position r)).inputs ↔
      i ∈ (vector position).inputs ∨ i ∈ (rotation r).inputs := by
  rw [mem_inputs_iff]
  simp [input?, children]

@[simp]
theorem mem_inputs_product {factors : List (FrameExpr α)} :
    i ∈ (frame (.product id factors)).inputs ↔ ∃ f ∈ factors, i ∈ (frame f).inputs := by
  rw [mem_inputs_iff]
  simp [input?, children]

@[simp]
theorem mem_inputs_cached {f : FrameExpr α} :
    i ∈ (frame (.cached id f)).inputs ↔ i ∈ (frame f).inputs := by
  rw [mem_inputs_iff]
  simp [input?, children]

end Node

theorem ScalarExpr.IsRemaining.mem_inputs {limit : Number α} {v : Variable} {e : ScalarExpr α}
    (h : e.IsRemaining limit v) {i : Int} : i ∈ (Node.scalar e).inputs ↔ v.index = i := by
  obtain ⟨id, id', rfl⟩ := h
  simp

/-! ### What is laid out for joints -/

/-- **The entry that a joint reads**, if it moves. -/
def Joint.Reads (vs : Variables) (j : Joint α) (i : Int) : Prop :=
  j.isMoveable = true ∧ ∃ v, vs.find? j.name = some v ∧ v.index = i

/-- A joint that has kept its variable reads the same as before. -/
theorem Joint.reads_iff_of_keeps {vs vs' : Variables} {j : Joint α}
    (hkeep : ∀ v, vs.find? j.name = some v → vs'.find? j.name = some v)
    (h : j.isMoveable = true → ∃ v, vs.find? j.name = some v) {i : Int} :
    j.Reads vs i ↔ j.Reads vs' i := by
  constructor
  · rintro ⟨hmove, v, hv, hi⟩
    exact ⟨hmove, v, hkeep v hv, hi⟩
  · rintro ⟨hmove, w, hw, hi⟩
    obtain ⟨v, hv⟩ := h hmove
    obtain rfl := Option.some.inj (hw.symm.trans (hkeep v hv))
    exact ⟨hmove, w, hv, hi⟩

@[simp]
theorem not_mem_inputs_node (v : Vec3 α) (n : Nat) (i : Int) :
    i ∉ (Node.vector (v.node n)).inputs := by
  simp [Vec3.node]

/-- The place of a joint lists nothing. -/
@[simp]
theorem not_mem_inputs_place (p : PlacePlan α) (n : Nat) (i : Int) :
    i ∉ (Node.frame (p.node n)).inputs := by
  simp [PlacePlan.node]

variable [Scalar α]

@[simp]
theorem not_mem_inputs_levelNode (n : Nat) (i : Int) :
    i ∉ (Node.rotation (levelNode n : RotationExpr α)).inputs := by
  simp [levelNode]

section Planned

variable {vs : Variables} {i : Int}

/-- **The motion of a joint lists what the joint reads.** -/
theorem mem_inputs_motion {j : Joint α} {m : MotionPlan α} (h : j.Moves vs m) (n : Nat) :
    (∃ f ∈ m.nodes n, i ∈ (Node.frame f).inputs) ↔ j.Reads vs i := by
  rw [Joint.Reads, Joint.isMoveable_iff]
  cases h with
  | still htype => simp [MotionPlan.nodes, htype]
  | shift htype _ hv => simp [MotionPlan.nodes, htype, hv]
  | turn htype _ hv =>
    have hmove : j.type ≠ .fixed := by rcases htype with htype | htype <;> simp [htype]
    simp [MotionPlan.nodes, hmove, hv]

theorem mem_inputs_joint {j : Joint α} {p : JointPlan α} (h : j.plan vs = .ok p) (n : Nat) :
    (∃ f ∈ p.nodes n, i ∈ (Node.frame f).inputs) ↔ j.Reads vs i := by
  rw [JointPlan.nodes, List.exists_mem_cons_iff, mem_inputs_motion (Joint.plan_eq_ok_iff.1 h).2]
  simp

/-- **The frames of joints one after the other** list what those joints read. -/
theorem mem_inputs_layOut {js : List (Joint α)} {ps : List (JointPlan α)}
    (h : List.Forall₂ (fun j p => j.plan vs = .ok p) js ps) (n : Nat) :
    (∃ f ∈ layOut n ps, i ∈ (Node.frame f).inputs) ↔ ∃ j ∈ js, j.Reads vs i := by
  induction h generalizing n with
  | nil => simp [layOut]
  | @cons j p js ps hp _ ih =>
    rw [List.exists_mem_cons_iff, ← mem_inputs_joint hp n, ← ih (n + p.count)]
    simp only [layOut, List.mem_append, or_and_right, exists_or]

/-- **The frame of a chain** lists what its joints read. -/
theorem mem_inputs_chainNode {js : List (Joint α)} {ps : List (JointPlan α)}
    (h : List.Forall₂ (fun j p => j.plan vs = .ok p) js ps) (n : Nat) :
    i ∈ (Node.frame (chainNode n ps)).inputs ↔ ∃ j ∈ js, j.Reads vs i := by
  rw [chainNode, Node.mem_inputs_cached, Node.mem_inputs_product, List.exists_mem_cons_iff,
    mem_inputs_layOut h]
  simp

end Planned

/-! ### What a robot has -/

namespace Robot

variable {tree : Tree α} {root : String} {r : Robot α}

/-- **What the frame of a chain lists.** -/
theorem Traced.exists_frame_inputs (hr : Traced tree r) (htree : tree.IsRooted) {key : ChainKey}
    (hkey : key ∈ r.chains) :
    ∃ f js, r.frame key.1 key.2 = .ok f ∧ Leads tree.joints key.1 js key.2 ∧
      (∀ j ∈ js, j.IsFramed r.inputs) ∧
      ∀ i, i ∈ (Node.frame f).inputs ↔ ∃ j ∈ js, j.Reads r.inputs i := by
  obtain ⟨f, names, vs, n, m, hget, hnames, hkeep, hbuilt⟩ := hr.built key hkey
  obtain ⟨js, hjs, rfl⟩ := htree.leads_of_pathNames hr.above_eq hnames
  simp only [Bool.true_or, List.filter_true] at hbuilt
  obtain ⟨ks, ps, hks, hps, rfl, -⟩ := chainFrame_eq_ok hbuilt
  obtain rfl := htree.eq_of_joint_eq_ok hjs.subset hks
  have hframed := isFramed_of_plans hps
  refine ⟨_, ks, hget, hjs, fun j hj => (hframed j hj).of_keeps hkeep, fun i => ?_⟩
  rw [mem_inputs_chainNode hps]
  refine exists_congr fun j => and_congr_right fun hj => ?_
  exact Joint.reads_iff_of_keeps (hkeep j.name) (hframed j hj).input

/-- **Controllable constraints list nothing.** -/
theorem Grounded.inputs_of_controllable (hr : Grounded r) {c : Controllable α}
    (hc : c ∈ r.controllable) (i : Int) :
    i ∉ (Node.scalar c.weight).inputs ∧ i ∉ (Node.scalar c.lower).inputs ∧
      i ∉ (Node.scalar c.upper).inputs := by
  obtain ⟨j, v, n, m, -, -, hbuilt⟩ := hr.controllable c hc
  obtain ⟨w, limit, -, -, rfl, -⟩ := controllable_eq_ok hbuilt
  exact ⟨Node.mem_inputs_const, Node.mem_inputs_const, Node.mem_inputs_const⟩

/-- **Hard constraints list the entry of their joint**, and nothing else. -/
theorem Grounded.mem_inputs_of_hard (hr : Grounded r) {c : Hard α} (hc : c ∈ r.hard) :
    ∃ v, r.joint c.joint = .ok v ∧ ∀ i, (i ∈ (Node.scalar c.value).inputs ↔ v.index = i) ∧
      (i ∈ (Node.scalar c.lower).inputs ↔ v.index = i) ∧
      (i ∈ (Node.scalar c.upper).inputs ↔ v.index = i) := by
  obtain ⟨j, v, n, m, -, hv, hbuilt⟩ := hr.hard c hc
  obtain ⟨-, hvalue, limits, -, hlower, hupper⟩ := (hard_eq_ok hbuilt).2 c rfl
  refine ⟨v, hv, fun i => ⟨?_, hlower.mem_inputs, hupper.mem_inputs⟩⟩
  rw [hvalue, Node.mem_inputs_input]

end Robot

end Linkage
