import Linkage.Proofs.Alignment
import Linkage.Proofs.Sharing

/-!
# What the frame of a chain comes to

The frame of a chain is built from nodes while a robot is made, and it is evaluated later, when
the robot may have been given many chains more. What it comes to can be said without any nodes:
joint after joint, from the numbers of the joint and from what is read for it
(`Linkage.framesAlong`), and then multiplied together. Two things are in between.

* What is laid out for a joint comes to what its numbers say, in every pass
  (`Linkage.Shows`, `Linkage.evaluate_chainNode`). That includes the faults that come up on the
  way.
* A frame is built from the variables of its time, and the robot has been given others since.
  But it has kept the old ones, and every frame in its table can be traced back to when it was
  built (`Linkage.Robot.Traced`).

The two come together in `Linkage.Robot.Traced.exists_frame`.
-/

namespace Linkage

variable {α : Type} [Scalar α]

/-! ### Joints by their numbers -/

/-- The rotation of four numbers, which have to make up a row. -/
def Mat3.ofNumbers (xs : List (Number α)) : Except (Fault α) (Mat3 α) := do
  let (w, x, y, z) ← four xs
  if Number.areRow [w, x, y, z] then
    return Mat3.ofQuaternion ⟨← w.toScalar, ← x.toScalar, ← y.toScalar, ← z.toScalar⟩
  else .error .wordTooLarge

/-- The rotation that turns nothing, as it is computed. -/
def Mat3.level : Mat3 α := Mat3.ofQuaternion ⟨1, 0, 0, 0⟩

/-- **The frame of a pose.** -/
def Pose.place (pose : Pose α) : Except (Fault α) (Frame α) := do
  let position ← Vec3.ofNumbers pose.position
  let rotation ← Mat3.ofNumbers pose.rotation
  return Frame.ofParts position rotation

/-- **The frame of a joint's motion** by what is read for it, if it moves. -/
def Joint.motionAt (j : Joint α) (x : Except (Fault α) α) : Except (Fault α) (List (Frame α)) :=
  match j.type with
  | .fixed => return []
  | .prismatic => do
    let axis ← Vec3.ofNumbers j.axis
    return [Frame.ofParts (axis.scale (← x)) Mat3.level]
  | .revolute | .continuous => do
    let axis ← Vec3.ofNumbers j.axis
    return [Frame.ofParts Vec3.zero (Mat3.ofAxisAngle axis (← x))]
  | .planar | .floating | .unknown | .other _ => .error j.typeFault

/-- The frames of a joint, its place and its motion. -/
def Joint.framesAt (j : Joint α) (x : Except (Fault α) α) : Except (Fault α) (List (Frame α)) := do
  let place ← j.origin.place
  return place :: (← j.motionAt x)

/-- **The frames of joints one after the other**, with what is read for each. -/
def framesAlong (read : String → Except (Fault α) α) :
    List (Joint α) → Except (Fault α) (List (Frame α))
  | [] => .ok []
  | j :: js => do
    let frames ← j.framesAt (read j.name)
    return frames ++ (← framesAlong read js)

/-- The frame at rest, as it is computed. -/
def Frame.rest : Frame α := Frame.ofParts Vec3.zero Mat3.level

/-- **What a chain comes to.** -/
def chainValue (read : String → Except (Fault α) α) (js : List (Joint α)) :
    Except (Fault α) (Frame α) := do
  return Frame.product (Frame.rest :: (← framesAlong read js))

omit [Scalar α] in
/-- **What is read for a joint**: the entry of its variable. -/
def Variables.read (vs : Variables) (q : List α) (name : String) : Except (Fault α) α := do
  readInput q (← vs.lookup name).index

/-- Joints after joints have frames after frames. -/
theorem framesAlong_append (read : String → Except (Fault α) α) (js ks : List (Joint α)) :
    framesAlong read (js ++ ks) =
      (do return (← framesAlong read js) ++ (← framesAlong read ks)) := by
  induction js with
  | nil => exact (bind_pure _).symm
  | cons j js ih => simp only [List.cons_append, framesAlong, ih, bind_assoc, pure_bind,
      List.append_assoc]

/-- For a joint that does not move nothing is read. -/
theorem Joint.framesAt_congr {j : Joint α} {x y : Except (Fault α) α}
    (h : j.isMoveable = true → x = y) : j.framesAt x = j.framesAt y := by
  by_cases hmove : j.isMoveable = true
  · rw [h hmove]
  · have htype : j.type = .fixed := by simpa [isMoveable, JointType.isMoveable] using hmove
    rw [framesAt, framesAt, motionAt, motionAt, htype]

/-- **Only what is read for joints that move matters.** -/
theorem framesAlong_congr {read read' : String → Except (Fault α) α} {js : List (Joint α)}
    (h : ∀ j ∈ js, j.isMoveable = true → read j.name = read' j.name) :
    framesAlong read js = framesAlong read' js := by
  induction js with
  | nil => rfl
  | cons j js ih =>
    rw [List.forall_mem_cons] at h
    rw [framesAlong, framesAlong, Joint.framesAt_congr h.1, ih h.2]

/-! ### What is laid out for joints -/

theorem plainFrames_append (q : List α) (es fs : List (FrameExpr α)) :
    plainFrames q (es ++ fs) = (do return (← plainFrames q es) ++ (← plainFrames q fs)) := by
  induction es with
  | nil => exact (bind_pure _).symm
  | cons e es ih => simp only [List.cons_append, plainFrames, ih, bind_assoc, pure_bind]

/-- **Frames of a position and a rotation each, that come to what is said.** -/
structure Shows (es : List (FrameExpr α)) (xs : List α → Except (Fault α) (List (Frame α))) :
    Prop where
  build : ∀ e ∈ es, ∃ id position r, e = .build id position r
  plain_eq : ∀ q, plainFrames q es = xs q

namespace Shows

variable {es fs : List (FrameExpr α)} {xs ys : List α → Except (Fault α) (List (Frame α))}

theorem nil : Shows ([] : List (FrameExpr α)) fun _ => .ok [] :=
  ⟨fun _ he => absurd he List.not_mem_nil, fun _ => rfl⟩

theorem append (h : Shows es xs) (h' : Shows fs ys) :
    Shows (es ++ fs) fun q => do return (← xs q) ++ (← ys q) where
  build e he := (List.mem_append.1 he).elim (h.build e) (h'.build e)
  plain_eq q := by rw [plainFrames_append, h.plain_eq, h'.plain_eq]

/-- In a pass they come to the same, and leave no trace in it. -/
theorem inPass_eq (h : Shows es xs) (q : List α) (p : Pass α) :
    (evaluateFrames q es).inPass p = (xs q, p) := by
  rw [← h.plain_eq q]
  replace h := h.build
  induction es with
  | nil => rfl
  | cons e es ih =>
    rw [List.forall_mem_cons] at h
    obtain ⟨⟨id, position, r, rfl⟩, h⟩ := h
    rw [inPass_cons, inPass_build, plainFrames]
    rcases (FrameExpr.build id position r).plain q with fault | f
    · rfl
    · change ((((evaluateFrames q es).inPass p).1.map (f :: ·)),
        ((evaluateFrames q es).inPass p).2) = _
      rw [ih h]
      rfl

end Shows

/-- A vector that has been laid out comes to itself. -/
theorem Vec3.evaluate_node (v : Vec3 α) (n : Nat) (q : List α) : (v.node n).evaluate q = .ok v :=
  rfl

theorem evaluate_levelNode (n : Nat) (q : List α) : (levelNode n).evaluate q = .ok Mat3.level := by
  rw [levelNode, RotationExpr.evaluate, if_pos (Number.areRow_of_real_mem List.mem_cons_self)]
  rfl

/-- A frame comes to what its position and its rotation come to. -/
theorem shows_build {position : VectorExpr α} {r : RotationExpr α}
    {v : List α → Except (Fault α) (Vec3 α)} {m : List α → Except (Fault α) (Mat3 α)}
    (hv : ∀ q, position.evaluate q = v q) (hm : ∀ q, r.evaluate q = m q) (id : Nat) :
    Shows [.build id position r] fun q => do return [Frame.ofParts (← v q) (← m q)] where
  build := List.forall_mem_singleton.2 ⟨id, position, r, rfl⟩
  plain_eq q := by
    rw [plainFrames, FrameExpr.plain, hv, hm]
    rcases v q with fault | a
    · rfl
    rcases m q with fault | b
    · rfl
    rfl

theorem shows_rest (n : Nat) :
    Shows [PlacePlan.rest.node n] fun _ : List α => .ok [Frame.rest] :=
  shows_build (Vec3.evaluate_node Vec3.zero n) (evaluate_levelNode (n + 4)) (n + 5)

/-- **The frame of a pose** comes to what its numbers say. -/
theorem shows_place {pose : Pose α} {p : PlacePlan α} (h : pose.plan = .ok p) (n : Nat) :
    Shows [p.node n] fun _ => do return [← pose.place] := by
  obtain ⟨hposition, hrotation⟩ := Pose.plan_eq_ok_iff.1 h
  have hquaternion : ∀ q, (RotationExpr.quaternion (n + 4) p.w p.x p.y p.z).evaluate q =
      Mat3.ofNumbers pose.rotation := fun q => by
    rw [hrotation]
    rfl
  rw [Pose.place, hposition, PlacePlan.node]
  simpa only [ok_bind, bind_assoc, pure_bind] using
    shows_build (p.position.evaluate_node n) hquaternion (n + 5)

/-- **The frame of a motion** comes to what the numbers of the joint say and what is read for it. -/
theorem shows_motion {j : Joint α} {vs : Variables} {m : MotionPlan α} (h : j.Moves vs m)
    (n : Nat) : Shows (m.nodes n) fun q => j.motionAt (vs.read q j.name) := by
  have hread : ∀ {v}, vs.find? j.name = some v → ∀ q,
      (ScalarExpr.input v).evaluate (α := α) q = vs.read q j.name := fun hv q => by
    rw [Variables.read, Variables.lookup_eq_ok_iff.2 hv]
    rfl
  unfold Joint.motionAt
  cases h with
  | still htype =>
    rw [htype]
    exact Shows.nil
  | @shift a v htype haxis hv =>
    have hshift : ∀ q, (VectorExpr.scale (n + 4) (a.node n) (.input v)).evaluate q =
        (do return a.scale (← vs.read q j.name)) := fun q => by
      rw [VectorExpr.evaluate, Vec3.evaluate_node, hread hv]
      rfl
    rw [htype, haxis, MotionPlan.nodes]
    simpa only [ok_bind, bind_assoc, pure_bind] using
      shows_build hshift (evaluate_levelNode (n + 5)) (n + 6)
  | @turn a v htype haxis hv =>
    have hturn : ∀ q, (RotationExpr.axisAngle (n + 8) (a.node (n + 4)) (.input v)).evaluate q =
        (do return Mat3.ofAxisAngle a (← vs.read q j.name)) := fun q => by
      rw [RotationExpr.evaluate, Vec3.evaluate_node, hread hv]
      rfl
    have hshows := shows_build (Vec3.evaluate_node Vec3.zero n) hturn (n + 9)
    -- The two types that turn come to the same.
    rcases htype with htype | htype
    all_goals
      rw [htype, haxis, MotionPlan.nodes]
      simpa only [ok_bind, bind_assoc, pure_bind] using hshows

/-- **The frames of a joint** come to those of its place and of its motion. -/
theorem shows_joint {j : Joint α} {vs : Variables} {p : JointPlan α} (h : j.plan vs = .ok p)
    (n : Nat) : Shows (p.nodes n) fun q => j.framesAt (vs.read q j.name) := by
  obtain ⟨hplace, hmotion⟩ := Joint.plan_eq_ok_iff.1 h
  rw [JointPlan.nodes]
  simpa [Joint.framesAt] using (shows_place hplace n).append (shows_motion hmotion (n + 6))

/-! ### What is laid out for chains -/

section Chains

variable {vs : Variables} {js : List (Joint α)} {ps : List (JointPlan α)}

/-- **The frames of joints one after the other** come to what is told of those joints. -/
theorem shows_layOut (h : List.Forall₂ (fun j p => j.plan vs = .ok p) js ps) (n : Nat) :
    Shows (layOut n ps) fun q => framesAlong (vs.read q) js := by
  induction h generalizing n with
  | nil => exact Shows.nil
  | @cons j p js ps hp _ ih => exact (shows_joint hp n).append (ih (n + p.count))

/-- **The frame of a chain** comes to the product of the frames of its joints. -/
theorem evaluate_chainNode (h : List.Forall₂ (fun j p => j.plan vs = .ok p) js ps) (n : Nat)
    (q : List α) :
    (((chainNode n ps).evaluate q).inPass .new).1 = chainValue (vs.read q) js := by
  -- A pass that has not begun holds nothing, so the product is computed.
  rw [chainNode, inPass_cached_of_not_held .new rfl, inPass_product]
  have hvalue := ((shows_rest n).append (shows_layOut h (n + 6))).inPass_eq q
    (Pass.new.noting (n + 6 + countAll ps + 1))
  rw [List.singleton_append] at hvalue
  rw [hvalue, chainValue]
  rcases framesAlong (vs.read q) js with fault | fs
  · rfl
  · rfl

end Chains

/-! ### Frames that were built before -/

omit [Scalar α] in
/-- A chain keeps its frame when the table gets others. -/
theorem FrameTable.get_append {t : FrameTable α} {key : ChainKey} {f : FrameExpr α}
    (h : t.get key = .ok f) (entries : List (ChainKey × FrameExpr α)) :
    FrameTable.get ⟨t.entries ++ entries⟩ key = .ok f := by
  rw [get] at h ⊢
  rcases hlook : t.entries.lookup key with _ | g
  · rw [hlook] at h
    cases h
  · rw [hlook] at h
    rw [List.lookup_append, hlook]
    exact h

omit [Scalar α] in
/-- A chain that was not in the table has the frame that it gets. -/
theorem FrameTable.get_concat {t : FrameTable α} {key : ChainKey} (h : t.contains key = false)
    (f : FrameExpr α) : FrameTable.get ⟨t.entries ++ [(key, f)]⟩ key = .ok f := by
  rw [get, List.lookup_append, lookup_of_not_contains h, List.lookup_cons_self, Option.none_or]

omit [Scalar α] in
/-- Variables that have been kept read what they read before. -/
theorem Variables.read_eq {vs vs' : Variables} {name : String}
    (hkeep : ∀ v, vs.find? name = some v → vs'.find? name = some v)
    (h : ∃ v, vs.find? name = some v) (q : List α) : vs.read q name = vs'.read q name := by
  obtain ⟨v, hv⟩ := h
  rw [read, read, lookup, lookup, hv, hkeep v hv]

theorem Joint.IsFramed.of_keeps {vs vs' : Variables} {j : Joint α} (h : j.IsFramed vs)
    (hkeep : ∀ name v, vs.find? name = some v → vs'.find? name = some v) : j.IsFramed vs' where
  position := h.position
  rotation := h.rotation
  type := h.type
  axis := h.axis
  input hmove := (h.input hmove).imp fun v hv => hkeep j.name v hv

namespace Tree

variable {tree : Tree α} {above : ParentLinks}

omit [Scalar α] in
/-- **What is found for a chain** are the names of joints that lead from its root to its tip. -/
theorem IsRooted.leads_of_pathNames (h : tree.IsRooted) (habove : tree.parentLinks = .ok above)
    {root tip : String} {withFixed : Bool} {names : List String}
    (hnames : tree.pathNames above root tip withFixed = .ok names) :
    ∃ js, Leads tree.joints root js tip ∧
      names = (js.filter fun j => withFixed || j.isMoveable).map (·.name) := by
  by_cases hr : Reaches tree.joints root tip
  · obtain ⟨js, hjs⟩ := reaches_iff_leads.1 hr
    have hall := h.pathNames_of_leads habove hjs withFixed
    exact ⟨js, hjs, Except.ok.inj (hnames.symm.trans hall)⟩
  · have hne : root ≠ tip := by
      rintro rfl
      exact hr .refl
    rw [pathNames] at hnames
    by_cases htip : tip ∈ tree.linkNames
    · rw [h.path_of_not_reaches habove htip hr] at hnames
      cases hnames
    · rw [path_of_not_mem tree above hne htip] at hnames
      cases hnames

omit [Scalar α] in
/-- Joints that are found under the names of joints of the tree are those joints. -/
theorem IsRooted.eq_of_joint_eq_ok (h : tree.IsRooted) {js ks : List (Joint α)}
    (hjs : js ⊆ tree.joints)
    (hks : List.Forall₂ (fun name k => tree.joint name = .ok k) (js.map (·.name)) ks) :
    ks = js := by
  rw [List.forall₂_map_left_iff] at hks
  induction hks with
  | nil => rfl
  | cons hjk _ ih =>
    rw [List.cons_subset] at hjs
    rw [h.joint_of_mem hjs.1] at hjk
    rw [Except.ok.inj hjk, ih hjs.2]

end Tree

namespace Robot

/-- **A robot all of whose frames can be traced back** to when they were built. Each is what
was built for the joints on the path of its chain, from variables that the robot still has. -/
structure Traced (tree : Tree α) (r : Robot α) : Prop where
  tree_eq : r.tree = tree
  above_eq : tree.parentLinks = .ok r.above
  built : ∀ key ∈ r.chains, ∃ f names vs n m, r.frame key.1 key.2 = .ok f ∧
    tree.pathNames r.above key.1 key.2 true = .ok names ∧
    (∀ name v, vs.find? name = some v → r.inputs.find? name = some v) ∧
    chainFrame tree vs names n = .ok (f, m)

variable {tree : Tree α} {root : String} {r r' : Robot α}

theorem traced_bare {above : ParentLinks} (habove : tree.parentLinks = .ok above)
    (weights thresholds : Settings α) : Traced tree (bare tree root above weights thresholds) where
  tree_eq := rfl
  above_eq := habove
  built _ hkey := absurd hkey List.not_mem_nil

/-- **With one chain more** the frames can still be traced back. No chain loses its frame, and no
joint the variable that was read for it. -/
theorem Traced.addChain (hr : Traced tree r) {key : ChainKey} (hok : r.addChain key = .ok r') :
    Traced tree r' := by
  obtain ⟨rfl, habove, hbuilt⟩ := hr
  rcases addChain_eq_ok hok with ⟨-, rfl⟩ |
    ⟨hkey, moving, all, vs, n, log, f, m, r₂, -, hall, hassign, hframe, hconstrain, rfl⟩
  · exact ⟨rfl, habove, hbuilt⟩
  have hkeep := fun name v (hv : r.inputs.find? name = some v) => find?_assignAll hv moving
  rw [hassign] at hkeep
  -- The constraints come after the frame, and do not touch it.
  obtain ⟨cs, hs, k, rfl⟩ := constrainAll_eq_ok hconstrain
  refine ⟨rfl, habove, fun key' hkey' => ?_⟩
  rcases List.mem_append.1 hkey' with hbefore | hnow
  · obtain ⟨g, names, ws, i, l, hget, hnames, hfound, hg⟩ := hbuilt key' hbefore
    exact ⟨g, names, ws, i, l, FrameTable.get_append hget _, hnames,
      fun name v hv => hkeep name v (hfound name v hv), hg⟩
  · obtain rfl := List.mem_singleton.1 hnow
    exact ⟨f, all, vs, n, m, FrameTable.get_concat hkey f, hall, fun _ _ hv => hv, hframe⟩

theorem traced_of_compile {requests : List ChainRequest} {weights thresholds : Settings α}
    (h : compile tree root (.ok requests) weights thresholds = .ok r) : Traced tree r := by
  obtain ⟨above, r₀, line, habove, hadd, rfl⟩ := compile_eq_ok h
  obtain ⟨htree, habove', hbuilt⟩ :=
    addChains_induction (fun hr => hr.addChain) (traced_bare habove weights thresholds) hadd
  exact ⟨htree, habove', hbuilt⟩

/-- **What the frame of a chain comes to.** -/
theorem Traced.exists_frame (hr : Traced tree r) (htree : tree.IsRooted) {key : ChainKey}
    (hkey : key ∈ r.chains) :
    ∃ f js, r.frame key.1 key.2 = .ok f ∧ Leads tree.joints key.1 js key.2 ∧
      (∀ j ∈ js, j.IsFramed r.inputs) ∧
      ∀ q, ((f.evaluate q).inPass .new).1 = chainValue (r.inputs.read q) js := by
  obtain ⟨f, names, vs, n, m, hget, hnames, hkeep, hbuilt⟩ := hr.built key hkey
  obtain ⟨js, hjs, rfl⟩ := htree.leads_of_pathNames hr.above_eq hnames
  simp only [Bool.true_or, List.filter_true] at hbuilt
  obtain ⟨ks, ps, hks, hps, rfl, -⟩ := chainFrame_eq_ok hbuilt
  obtain rfl := htree.eq_of_joint_eq_ok hjs.subset hks
  have hframed := isFramed_of_plans hps
  refine ⟨_, ks, hget, hjs, fun j hj => (hframed j hj).of_keeps hkeep, fun q => ?_⟩
  -- Of the variables of that time only those of joints that move are read, and they are kept.
  have hread : framesAlong (vs.read q) ks = framesAlong (r.inputs.read q) ks :=
    framesAlong_congr fun j hj hmove =>
      Variables.read_eq (hkeep j.name) ((hframed j hj).input hmove) q
  rw [evaluate_chainNode hps, chainValue, chainValue, hread]

end Robot

end Linkage
