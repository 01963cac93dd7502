import Linkage.Kinematics
import Linkage.Proofs.Sequences

/-!
# Frames, planned and laid out

The frames of a chain are built joint after joint, and two things are done at a time. What a frame
is made of is looked up: a position, an axis, the variable of a joint. That may fail, and takes no
numbers. And nodes are made, each with the next number that is free. That cannot fail. Here the two
are taken apart.

* A *plan* (`Linkage.JointPlan`) is all that the frames of one joint are made of. The joints of a
  chain are planned one after the other, up to the first that cannot be (`Linkage.planOf`).
* A plan is *laid out* from a number on (`Linkage.JointPlan.nodes`, `Linkage.chainNode`): its nodes
  are those that would be made if that number were the next.

The one thing to know about a builder is that it lays out what has been planned, and each of them
has an equation that says so, down to `Linkage.chainFrame_eq`. After that no builder is looked into.
What is said of failures is said of plans, and what is said of numbers, inputs, values and factors
is said of nodes that have been laid out.
-/

namespace Linkage

variable {α : Type}

/-! ### Plans -/

/-- **What the frame of a place is made of**: a position, and the four numbers of a rotation. -/
structure PlacePlan (α : Type) where
  position : Vec3 α
  w : Number α
  x : Number α
  y : Number α
  z : Number α

/-- **What the frame of a motion is made of**, if there is one: an axis, and the variable of the
joint. -/
inductive MotionPlan (α : Type) where
  | still
  | shift (axis : Vec3 α) (v : Variable)
  | turn (axis : Vec3 α) (v : Variable)

/-- **What the frames of a joint are made of.** -/
structure JointPlan (α : Type) where
  place : PlacePlan α
  motion : MotionPlan α

/-- The types that have a motion, if only that of not moving. -/
def JointType.IsModeled (t : JointType) : Prop :=
  t = .fixed ∨ t = .prismatic ∨ t = .revolute ∨ t = .continuous

instance (t : JointType) : Decidable t.IsModeled :=
  inferInstanceAs (Decidable (t = .fixed ∨ t = .prismatic ∨ t = .revolute ∨ t = .continuous))

/-- What is reported of a joint whose type has no motion. -/
def Joint.typeFault (j : Joint α) : Fault α :=
  match j.type with
  | .other s => .unmodeledType j.name s
  | t => .unsupportedType j.name t.name

theorem Joint.kind_typeFault (j : Joint α) : j.typeFault.kind = .jointType := by
  rw [typeFault]
  cases j.type <;> rfl

section Planning

variable [Scalar α]

/-- The vector of three numbers. -/
def Vec3.ofNumbers (xs : List (Number α)) : Except (Fault α) (Vec3 α) := do
  let (x, y, z) ← three xs
  return ⟨← x.toScalar, ← y.toScalar, ← z.toScalar⟩

/-- **A pose is planned** rotation first. -/
def Pose.plan (pose : Pose α) : Except (Fault α) (PlacePlan α) := do
  let (w, x, y, z) ← four pose.rotation
  return ⟨← Vec3.ofNumbers pose.position, w, x, y, z⟩

/-- **The motion of a joint is planned** by its type. -/
def Joint.motionPlan (j : Joint α) (vs : Variables) : Except (Fault α) (MotionPlan α) :=
  match j.type with
  | .fixed => return .still
  | .prismatic => return .shift (← Vec3.ofNumbers j.axis) (← vs.lookup j.name)
  | .revolute | .continuous => return .turn (← Vec3.ofNumbers j.axis) (← vs.lookup j.name)
  | .planar | .floating | .unknown | .other _ => .error j.typeFault

/-- **A joint is planned** place first. -/
def Joint.plan (j : Joint α) (vs : Variables) : Except (Fault α) (JointPlan α) := do
  return ⟨← j.origin.plan, ← j.motionPlan vs⟩

/-- A name is planned as the joint that it refers to. -/
def namedPlan (tree : Tree α) (vs : Variables) (name : String) :
    Except (Fault α) (JointPlan α) := do
  (← tree.joint name).plan vs

/-- **Names are planned** one after the other. -/
def planOf (tree : Tree α) (vs : Variables) (names : List String) :
    Except (Fault α) (List (JointPlan α)) :=
  names.mapM (namedPlan tree vs)

end Planning

/-! ### Nodes -/

section Layout

/-- **A constant vector**, laid out from a number on: its three parts, and itself. -/
def Vec3.node (v : Vec3 α) (n : Nat) : VectorExpr α :=
  .build (n + 3) (.const n (.real v.x)) (.const (n + 1) (.real v.y)) (.const (n + 2) (.real v.z))

/-- **The frame of a place**: its position, its rotation, and itself. -/
def PlacePlan.node (p : PlacePlan α) (n : Nat) : FrameExpr α :=
  .build (n + 5) (p.position.node n) (.quaternion (n + 4) p.w p.x p.y p.z)

/-- How many nodes a motion takes. -/
def MotionPlan.count : MotionPlan α → Nat
  | still => 0
  | shift .. => 7
  | turn .. => 10

/-- How many nodes a joint takes, of which six are those of its place. -/
def JointPlan.count (p : JointPlan α) : Nat := 6 + p.motion.count

/-- How many nodes joints take one after the other. -/
def countAll : List (JointPlan α) → Nat
  | [] => 0
  | p :: ps => p.count + countAll ps

variable [Scalar α]

/-- The rotation that turns nothing. -/
def levelNode (n : Nat) : RotationExpr α := .quaternion n (.real 1) (.real 0) (.real 0) (.real 0)

/-- The place at which nothing is moved or turned. -/
def PlacePlan.rest : PlacePlan α := ⟨Vec3.zero, .real 1, .real 0, .real 0, .real 0⟩

/-- **The frame of a motion**, if there is one. A shift is not turned, and a turn is not shifted. -/
def MotionPlan.nodes : MotionPlan α → Nat → List (FrameExpr α)
  | still, _ => []
  | shift axis v, n =>
    [.build (n + 6) (.scale (n + 4) (axis.node n) (.input v)) (levelNode (n + 5))]
  | turn axis v, n =>
    [.build (n + 9) (Vec3.zero.node n) (.axisAngle (n + 8) (axis.node (n + 4)) (.input v))]

/-- **The frames of a joint.** -/
def JointPlan.nodes (p : JointPlan α) (n : Nat) : List (FrameExpr α) :=
  p.place.node n :: p.motion.nodes (n + 6)

/-- The frames of joints one after the other. -/
def layOut (n : Nat) : List (JointPlan α) → List (FrameExpr α)
  | [] => []
  | p :: ps => p.nodes n ++ layOut (n + p.count) ps

/-- **The frame of a chain**: the frame at rest, the frames of its joints, their product, and the
product once more, to be cached. -/
def chainNode (n : Nat) (ps : List (JointPlan α)) : FrameExpr α :=
  .cached (n + 6 + countAll ps + 1)
    (.product (n + 6 + countAll ps) (PlacePlan.rest.node n :: layOut (n + 6) ps))

end Layout

/-! ### Builders lay out what has been planned -/

section Builders

variable [Scalar α]

theorem constantVector_eq (xs : List (Number α)) (n : Nat) :
    constantVector xs n = (Vec3.ofNumbers xs).map fun v => (v.node n, n + 4) := by
  unfold constantVector Vec3.ofNumbers
  rcases three xs with fault | ⟨x, y, z⟩
  · rfl
  change (x.toScalar.map (·, n) >>= _) = Except.map _ (x.toScalar >>= _)
  rcases x.toScalar with fault | a
  · rfl
  change (y.toScalar.map (·, n) >>= _) = Except.map _ (y.toScalar >>= _)
  rcases y.toScalar with fault | b
  · rfl
  change (z.toScalar.map (·, n) >>= _) = Except.map _ (z.toScalar >>= _)
  rcases z.toScalar with fault | c
  · rfl
  · rfl

/-- Where nothing is given a frame is at rest. -/
theorem frameOf_none_eq (n : Nat) :
    (frameOf none none : Builder α (FrameExpr α)) n = .ok (PlacePlan.rest.node n, n + 6) := rfl

theorem Pose.frame_eq (pose : Pose α) (n : Nat) :
    pose.frame n = pose.plan.map fun p => (p.node n, n + 6) := by
  unfold Pose.frame Pose.plan
  rcases four pose.rotation with fault | ⟨w, x, y, z⟩
  · rfl
  change (constantVector pose.position n >>= _) = _
  rw [constantVector_eq]
  rcases Vec3.ofNumbers pose.position with fault | p
  · rfl
  · rfl

theorem Joint.motion_eq (j : Joint α) (vs : Variables) (n : Nat) :
    j.motion vs n = (j.motionPlan vs).map fun m => (m.nodes n, n + m.count) := by
  unfold Joint.motion Joint.motionPlan Joint.typeFault
  cases j.type with
  | fixed | planar | floating | unknown | other => rfl
  | prismatic =>
    change (constantVector j.axis n >>= _) = _
    rw [constantVector_eq]
    rcases Vec3.ofNumbers j.axis with fault | a
    · rfl
    rcases (vs.lookup j.name : Except (Fault α) Variable) with fault | v
    · rfl
    · rfl
  -- The two types that turn are built alike.
  | revolute | continuous =>
    change (constantVector j.axis (n + 4) >>= _) = _
    rw [constantVector_eq]
    rcases Vec3.ofNumbers j.axis with fault | a
    · rfl
    rcases (vs.lookup j.name : Except (Fault α) Variable) with fault | v
    · rfl
    · rfl

theorem Joint.frames_eq (j : Joint α) (vs : Variables) (n : Nat) :
    j.frames vs n = (j.plan vs).map fun p => (p.nodes n, n + p.count) := by
  unfold Joint.plan
  change (j.origin.frame n >>= _) = _
  rw [Pose.frame_eq]
  rcases j.origin.plan with fault | p
  · rfl
  change (j.motion vs (n + 6) >>= _) = _
  rw [Joint.motion_eq]
  rcases j.motionPlan vs with fault | m
  · rfl
  · exact congrArg (fun k => Except.ok (_, k)) (Nat.add_assoc n 6 m.count)

theorem framesOf_eq (tree : Tree α) (vs : Variables) (names : List String) (n : Nat) :
    framesOf tree vs names n = (planOf tree vs names).map fun ps =>
      (layOut n ps, n + countAll ps) := by
  induction names generalizing n with
  | nil => rfl
  | cons name names ih =>
    rw [planOf, List.mapM_cons, namedPlan]
    change ((tree.joint name).map (·, n) >>= _) = _
    rcases tree.joint name with fault | j
    · rfl
    change (j.frames vs n >>= _) = Except.map _ (j.plan vs >>= _)
    rw [Joint.frames_eq]
    rcases j.plan vs with fault | p
    · rfl
    change (framesOf tree vs names (n + p.count) >>= _) =
      Except.map _ (planOf tree vs names >>= _)
    rw [ih]
    rcases planOf tree vs names with fault | ps
    · rfl
    · exact congrArg (fun k => Except.ok (_, k)) (Nat.add_assoc n p.count _)

/-- **The frame of a chain is laid out** once all its names have been planned. -/
theorem chainFrame_eq (tree : Tree α) (vs : Variables) (names : List String) (n : Nat) :
    chainFrame tree vs names n = (planOf tree vs names).map fun ps =>
      (chainNode n ps, n + 6 + countAll ps + 2) := by
  change (framesOf tree vs names (n + 6) >>= _) = _
  rw [framesOf_eq]
  rcases planOf tree vs names with fault | ps
  · rfl
  · rfl

end Builders

/-! ### What can be planned -/

theorem Joint.isMoveable_iff {j : Joint α} : j.isMoveable = true ↔ j.type ≠ .fixed := by
  rw [isMoveable, JointType.isMoveable, bne_iff_ne]

theorem Variables.lookup_eq_ok_iff {vs : Variables} {name : String} {v : Variable} :
    (vs.lookup name : Except (Fault α) Variable) = .ok v ↔ vs.find? name = some v := by
  rw [lookup]
  rcases vs.find? name with _ | w
  · simp
  · rw [Except.ok.injEq, Option.some.injEq]

/-- What gives four members is a list of them. -/
theorem four_eq_ok_iff {β : Type} {xs : List β} {w x y z : β} :
    (four xs : Except (Fault α) _) = .ok (w, x, y, z) ↔ xs = [w, x, y, z] := by
  constructor
  · intro h
    unfold four at h
    split at h
    · cases h
      rfl
    · cases h
  · rintro rfl
    rfl

variable [Scalar α] {vs : Variables}

theorem Pose.plan_eq_ok_iff {pose : Pose α} {p : PlacePlan α} :
    pose.plan = .ok p ↔
      Vec3.ofNumbers pose.position = .ok p.position ∧ pose.rotation = [p.w, p.x, p.y, p.z] := by
  constructor
  · intro h
    obtain ⟨⟨w, x, y, z⟩, hfour, h⟩ := exists_of_bind_eq_ok h
    obtain ⟨position, hposition, h⟩ := exists_of_bind_eq_ok h
    obtain rfl := Except.ok.inj h
    exact ⟨hposition, four_eq_ok_iff.1 hfour⟩
  · rintro ⟨hposition, hrotation⟩
    rw [Pose.plan, four_eq_ok_iff.2 hrotation, ok_bind, hposition]
    rfl

/-- **The motion of a joint**, by its type. Of the types that move each asks for an axis and for a
variable. -/
inductive Joint.Moves (vs : Variables) (j : Joint α) : MotionPlan α → Prop
  | still (htype : j.type = .fixed) : Moves vs j .still
  | shift {a : Vec3 α} {v : Variable} (htype : j.type = .prismatic)
      (haxis : Vec3.ofNumbers j.axis = .ok a) (hv : vs.find? j.name = some v) :
    Moves vs j (.shift a v)
  | turn {a : Vec3 α} {v : Variable} (htype : j.type = .revolute ∨ j.type = .continuous)
      (haxis : Vec3.ofNumbers j.axis = .ok a) (hv : vs.find? j.name = some v) :
    Moves vs j (.turn a v)

theorem Joint.motionPlan_eq_ok_iff {j : Joint α} {m : MotionPlan α} :
    j.motionPlan vs = .ok m ↔ j.Moves vs m := by
  constructor
  · intro h
    unfold motionPlan at h
    split at h
    case h_1 htype =>
      obtain rfl := Except.ok.inj h
      exact .still htype
    case h_2 htype =>
      obtain ⟨a, ha, h⟩ := exists_of_bind_eq_ok h
      obtain ⟨v, hv, h⟩ := exists_of_bind_eq_ok h
      obtain rfl := Except.ok.inj h
      exact .shift htype ha (Variables.lookup_eq_ok_iff.1 hv)
    case h_3 htype | h_4 htype =>
      obtain ⟨a, ha, h⟩ := exists_of_bind_eq_ok h
      obtain ⟨v, hv, h⟩ := exists_of_bind_eq_ok h
      obtain rfl := Except.ok.inj h
      exact .turn (by simp [htype]) ha (Variables.lookup_eq_ok_iff.1 hv)
    all_goals cases h
  · intro h
    unfold motionPlan
    cases h with
    | still htype => rw [htype]; rfl
    | shift htype haxis hv =>
      rw [htype, haxis, Variables.lookup_eq_ok_iff.2 hv]
      rfl
    | turn htype haxis hv =>
      rw [haxis, Variables.lookup_eq_ok_iff.2 hv]
      rcases htype with htype | htype
      · rw [htype]
        rfl
      · rw [htype]
        rfl

theorem Joint.plan_eq_ok_iff {j : Joint α} {p : JointPlan α} :
    j.plan vs = .ok p ↔ j.origin.plan = .ok p.place ∧ j.Moves vs p.motion := by
  rw [← motionPlan_eq_ok_iff]
  constructor
  · intro h
    obtain ⟨place, hplace, h⟩ := exists_of_bind_eq_ok h
    obtain ⟨motion, hmotion, h⟩ := exists_of_bind_eq_ok h
    obtain rfl := Except.ok.inj h
    exact ⟨hplace, hmotion⟩
  · rintro ⟨hplace, hmotion⟩
    rw [Joint.plan, hplace, ok_bind, hmotion]
    rfl

/-- **A joint whose frames have been built**: its numbers are as many as they should be, its
type has a motion, and if it moves it has a variable. -/
structure Joint.IsFramed (vs : Variables) (j : Joint α) : Prop where
  position : ∃ p, Vec3.ofNumbers j.origin.position = .ok p
  rotation : ∃ w x y z, j.origin.rotation = [w, x, y, z]
  type : j.type.IsModeled
  axis : j.isMoveable = true → ∃ a, Vec3.ofNumbers j.axis = .ok a
  input : j.isMoveable = true → ∃ v, vs.find? j.name = some v

/-- **Those joints, and no others, can be planned.** -/
theorem Joint.isFramed_iff {j : Joint α} : j.IsFramed vs ↔ ∃ p, j.plan vs = .ok p := by
  constructor
  · rintro ⟨⟨position, hposition⟩, ⟨w, x, y, z, hrotation⟩, ht, haxis, hinput⟩
    have hmotion : ∃ m, j.Moves vs m := by
      by_cases hfixed : j.type = .fixed
      · exact ⟨.still, .still hfixed⟩
      obtain ⟨a, ha⟩ := haxis (isMoveable_iff.2 hfixed)
      obtain ⟨v, hv⟩ := hinput (isMoveable_iff.2 hfixed)
      rcases ht.resolve_left hfixed with htype | htype
      · exact ⟨_, .shift htype ha hv⟩
      · exact ⟨_, .turn htype ha hv⟩
    obtain ⟨m, hm⟩ := hmotion
    exact ⟨⟨⟨position, w, x, y, z⟩, m⟩,
      plan_eq_ok_iff.2 ⟨Pose.plan_eq_ok_iff.2 ⟨hposition, hrotation⟩, hm⟩⟩
  · rintro ⟨⟨place, m⟩, hp⟩
    obtain ⟨hplace, hm⟩ := plan_eq_ok_iff.1 hp
    obtain ⟨hposition, hrotation⟩ := Pose.plan_eq_ok_iff.1 hplace
    cases hm with
    | still htype =>
      have hstill : ¬j.isMoveable = true := fun hmove => isMoveable_iff.1 hmove htype
      exact ⟨⟨_, hposition⟩, ⟨_, _, _, _, hrotation⟩, Or.inl htype, fun h => absurd h hstill,
        fun h => absurd h hstill⟩
    | shift htype haxis hv =>
      exact ⟨⟨_, hposition⟩, ⟨_, _, _, _, hrotation⟩, Or.inr (Or.inl htype), fun _ => ⟨_, haxis⟩,
        fun _ => ⟨_, hv⟩⟩
    | turn htype haxis hv =>
      exact ⟨⟨_, hposition⟩, ⟨_, _, _, _, hrotation⟩, Or.inr (Or.inr htype), fun _ => ⟨_, haxis⟩,
        fun _ => ⟨_, hv⟩⟩

/-- **A joint of a type without a motion** is reported by its type, if its place can be planned. -/
theorem Joint.plan_of_not_isModeled {j : Joint α} {p : PlacePlan α} (hplace : j.origin.plan = .ok p)
    (ht : ¬j.type.IsModeled) : j.plan vs = .error j.typeFault := by
  have hmotion : j.motionPlan vs = .error j.typeFault := by
    unfold motionPlan
    split
    case h_1 htype => exact absurd (Or.inl htype) ht
    case h_2 htype => exact absurd (Or.inr (Or.inl htype)) ht
    case h_3 htype => exact absurd (Or.inr (Or.inr (Or.inl htype))) ht
    case h_4 htype => exact absurd (Or.inr (Or.inr (Or.inr htype))) ht
    all_goals rfl
  rw [Joint.plan, hplace, ok_bind, hmotion]
  rfl

/-- **A joint that moves and has no variable** is reported by that, if all else can be planned. -/
theorem Joint.plan_of_not_contains {j : Joint α} {p : PlacePlan α} {a : Vec3 α}
    (hplace : j.origin.plan = .ok p) (haxis : Vec3.ofNumbers j.axis = .ok a)
    (ht : j.type.IsModeled) (hmove : j.isMoveable = true) (hv : vs.contains j.name = false) :
    j.plan vs = .error (.unregistered j.name) := by
  have hlookup :
      (vs.lookup j.name : Except (Fault α) Variable) = .error (.unregistered j.name) := by
    rw [Variables.lookup, Option.not_isSome_iff_eq_none.1 (Bool.eq_false_iff.1 hv)]
  have hmotion : j.motionPlan vs = .error (.unregistered j.name) := by
    unfold motionPlan
    rcases ht.resolve_left (isMoveable_iff.1 hmove) with htype | htype | htype
    all_goals
      rw [htype, haxis, hlookup]
      rfl
  rw [Joint.plan, hplace, ok_bind, hmotion]
  rfl

/-! ### Chains that have been built -/

variable {tree : Tree α} {names : List String}

theorem namedPlan_of_joint {name : String} {j : Joint α} (hj : tree.joint name = .ok j) :
    namedPlan tree vs name = j.plan vs := by
  rw [namedPlan, hj, ok_bind]

/-- **Names that have been planned** refer to joints that have. -/
theorem planOf_eq_ok_iff {ps : List (JointPlan α)} :
    planOf tree vs names = .ok ps ↔
      ∃ js, List.Forall₂ (fun name j => tree.joint name = .ok j) names js ∧
        List.Forall₂ (fun j p => j.plan vs = .ok p) js ps := by
  have hnamed : ∀ name p, namedPlan tree vs name = .ok p ↔
      ∃ j, tree.joint name = .ok j ∧ j.plan vs = .ok p := fun name p => by
    refine ⟨exists_of_bind_eq_ok, ?_⟩
    rintro ⟨j, hj, hp⟩
    rw [namedPlan_of_joint hj, hp]
  rw [planOf, mapM_eq_ok_iff, ← forall₂_comp_iff]
  simp only [hnamed]

/-- Joints that have been planned are those that can be. -/
theorem isFramed_of_plans {js : List (Joint α)} {ps : List (JointPlan α)}
    (h : List.Forall₂ (fun j p => j.plan vs = .ok p) js ps) : ∀ j ∈ js, j.IsFramed vs := by
  intro j hj
  obtain ⟨p, -, hp⟩ := exists_of_mem_left h hj
  exact Joint.isFramed_iff.2 ⟨p, hp⟩

/-- **The frame of a chain that has been built** is laid out from the plans of its joints. -/
theorem chainFrame_eq_ok {n m : Nat} {f : FrameExpr α}
    (h : chainFrame tree vs names n = .ok (f, m)) :
    ∃ js ps, List.Forall₂ (fun name j => tree.joint name = .ok j) names js ∧
      List.Forall₂ (fun j p => j.plan vs = .ok p) js ps ∧ f = chainNode n ps ∧
      m = n + 6 + countAll ps + 2 := by
  rw [chainFrame_eq] at h
  obtain ⟨ps, hps, h⟩ := exists_of_map_eq_ok h
  obtain ⟨rfl, rfl⟩ := Prod.mk.inj h
  obtain ⟨js, hjs, hps⟩ := planOf_eq_ok_iff.1 hps
  exact ⟨js, ps, hjs, hps, rfl, rfl⟩

/-- **The frame of a chain is a new node**: its number was free before, and is not any more. -/
theorem id_of_chainFrame {n m : Nat} {f : FrameExpr α}
    (h : chainFrame tree vs names n = .ok (f, m)) : n ≤ f.id ∧ f.id < m := by
  obtain ⟨_, ps, -, -, rfl, rfl⟩ := chainFrame_eq_ok h
  rw [chainNode, FrameExpr.id]
  omega

end Linkage
