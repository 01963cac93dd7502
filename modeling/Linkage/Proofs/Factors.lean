import Linkage.Proofs.Listing
import Linkage.Proofs.Verdict

/-!
# The factors of a frame

The frame of a chain is built from a list of names. Nothing is asked of the list: it may name
the joints of no chain, and one joint more than once. A name is *served* by the joints of a tree
and by variables (`Linkage.IsServed`) if it is the name of a joint whose type has a motion, and if
there is a variable for it unless the joint is fixed. If all names are served, the frame is built;
otherwise the first that is not is reported, by what is wrong with it (`Linkage.Offends`).

What is built is a product of frames, in the order of the names. It begins with the frame at rest,
a fixed joint adds one factor, the frame of its place, and any other joint adds a second, the frame
of its motion. The motion alone reads an entry of the input vector, so the inputs of the product
are the entries of the joints that are not fixed.

* `Linkage.isServed_or_offends` – what comes of one name;
* `Linkage.chainFrame_outcome` – what comes of a list of names.
-/

namespace Linkage

variable {α : Type}

/-! ### What comes of one name -/

/-- **A name that is served**: that of a joint whose type has a motion, with a variable unless the
joint is fixed. -/
def IsServed (joints : List (Joint α)) (vs : Variables) (name : String) : Prop :=
  ∃ j ∈ joints, j.name = name ∧ j.type.IsModeled ∧ (j.type ≠ .fixed → vs.contains name = true)

/-- **What is wrong with a name**, and the class of that. A joint whose type has no motion is not
asked for a variable. -/
inductive Offends (joints : List (Joint α)) (vs : Variables) (name : String) :
    Fault α → Fault.Kind → Prop
  /-- It is empty. -/
  | empty (hname : name = "") : Offends joints vs name .emptyReference .integrity
  /-- It is the name of no joint. -/
  | unknown (hname : name ≠ "") (hnone : ∀ j ∈ joints, j.name ≠ name) :
    Offends joints vs name (.unknownJoint name) .integrity
  /-- Its joint has a type without a motion. -/
  | unmodeled {j : Joint α} (hj : j ∈ joints) (hname : j.name = name) (ht : ¬j.type.IsModeled) :
    Offends joints vs name j.typeFault .jointType
  /-- Its joint moves and has no variable. -/
  | unregistered {j : Joint α} (hj : j ∈ joints) (hname : j.name = name) (ht : j.type.IsModeled)
      (hmove : j.type ≠ .fixed) (hv : vs.contains name = false) :
    Offends joints vs name (.unregistered name) .notFound

/-- The class is that of the fault. -/
theorem Offends.kind_eq {joints : List (Joint α)} {vs : Variables} {name : String} {fault : Fault α}
    {kind : Fault.Kind} (h : Offends joints vs name fault kind) : fault.kind = kind := by
  cases h with
  | empty | unknown | unregistered => rfl
  | unmodeled => exact Joint.kind_typeFault _

/-- **A name is served, or something is wrong with it.** -/
theorem isServed_or_offends (joints : List (Joint α)) (vs : Variables) (name : String) :
    IsServed joints vs name ∨ ∃ fault kind, Offends joints vs name fault kind := by
  by_cases hfound : ∃ j ∈ joints, j.name = name
  · obtain ⟨j, hj, hname⟩ := hfound
    by_cases ht : j.type.IsModeled
    · by_cases hv : j.type ≠ .fixed → vs.contains name = true
      · exact Or.inl ⟨j, hj, hname, ht, hv⟩
      · obtain ⟨hmove, hv⟩ := Classical.not_imp.1 hv
        exact Or.inr ⟨_, _, .unregistered hj hname ht hmove (Bool.eq_false_iff.2 hv)⟩
    · exact Or.inr ⟨_, _, .unmodeled hj hname ht⟩
  · have hnone : ∀ j ∈ joints, j.name ≠ name := fun j hj hname => hfound ⟨j, hj, hname⟩
    by_cases hname : name = ""
    · exact Or.inr ⟨_, _, .empty hname⟩
    · exact Or.inr ⟨_, _, .unknown hname hnone⟩

variable [Scalar α]

/-- **A joint whose numbers are as many as they should be**, all of them with members of `α`. -/
structure Joint.IsShaped (j : Joint α) : Prop where
  position : IsTriple j.origin.position
  rotation : j.origin.rotation.length = 4
  axis : IsTriple j.axis

section Tree

variable {tree : Tree α} {vs : Variables} {name : String}

omit [Scalar α] in
/-- The names of a tree that is one refer to its joints. -/
theorem Tree.IsRooted.joint_eq_ok_iff (h : tree.IsRooted) {j : Joint α} :
    tree.joint name = .ok j ↔ j ∈ tree.joints ∧ j.name = name := by
  constructor
  · intro hj
    exact ⟨Tree.mem_joints_of_joint_eq hj, Tree.name_of_joint_eq hj⟩
  · rintro ⟨hj, rfl⟩
    exact h.joint_of_mem hj

/-- A name that is served can be planned, -/
theorem IsServed.exists_plan (h : IsServed tree.joints vs name) (htree : tree.IsRooted)
    (hshaped : ∀ j ∈ tree.joints, j.IsShaped) : ∃ p, namedPlan tree vs name = .ok p := by
  obtain ⟨j, hj, rfl, ht, hv⟩ := h
  have hframed : j.IsFramed vs := Joint.isFramed_of_isTriple (hshaped j hj).position
    (hshaped j hj).rotation (fun _ => (hshaped j hj).axis) ht
    fun hmove => hv (Joint.isMoveable_iff.1 hmove)
  obtain ⟨p, hp⟩ := Joint.isFramed_iff.1 hframed
  exact ⟨p, by rw [namedPlan_of_joint (htree.joint_of_mem hj), hp]⟩

/-- and one that something is wrong with is reported by that. -/
theorem Offends.plan_eq_error {fault : Fault α} {kind : Fault.Kind}
    (h : Offends tree.joints vs name fault kind) (htree : tree.IsRooted)
    (hshaped : ∀ j ∈ tree.joints, j.IsShaped) : namedPlan tree vs name = .error fault := by
  have hplace : ∀ {j}, j ∈ tree.joints → ∃ p, j.origin.plan = .ok p := fun {j} hj =>
    exists_placePlan (hshaped j hj).position (hshaped j hj).rotation
  cases h with
  | empty hname =>
    rw [namedPlan, Tree.joint, if_pos hname]
    rfl
  | unknown hname hnone =>
    rw [namedPlan, Tree.joint, if_neg hname,
      List.find?_eq_none.2 fun j hj => by simpa using hnone j hj]
    rfl
  | unmodeled hj hname ht =>
    subst hname
    obtain ⟨p, hp⟩ := hplace hj
    rw [namedPlan_of_joint (htree.joint_of_mem hj), Joint.plan_of_not_isModeled hp ht]
  | @unregistered j hj hname ht hmove hv =>
    subst hname
    obtain ⟨p, hp⟩ := hplace hj
    obtain ⟨a, ha⟩ := isTriple_iff.1 (hshaped j hj).axis
    rw [namedPlan_of_joint (htree.joint_of_mem hj),
      Joint.plan_of_not_contains hp ha ht (Joint.isMoveable_iff.2 hmove) hv]

end Tree

/-! ### The factors -/

/-- **The frame at rest**: a position and a rotation that are constant and change nothing. -/
def FrameExpr.IsRest (f : FrameExpr α) : Prop :=
  ∃ a b c d e r, f = .build a
    (.build b (.const c (.real 0)) (.const d (.real 0)) (.const e (.real 0)))
    (.quaternion r (.real 1) (.real 0) (.real 0) (.real 0))

/-- **The factors of a joint**: one for its place, and a second for its motion if it is not fixed.
They come to the frames that the joint has by its numbers and its entry. -/
def Joint.IsBlock (vs : Variables) (j : Joint α) (block : List (FrameExpr α)) : Prop :=
  block.length = (if j.type = .fixed then 1 else 2) ∧
    Shows block fun q => j.framesAt (vs.read q j.name)

theorem isRest_node (n : Nat) : FrameExpr.IsRest (PlacePlan.rest.node n : FrameExpr α) :=
  ⟨_, _, _, _, _, _, rfl⟩

/-- A motion is one frame, and no motion is none. -/
theorem length_motion {j : Joint α} {m : MotionPlan α} (h : j.Moves vs m) (n : Nat) :
    (m.nodes n).length = if j.type = .fixed then 0 else 1 := by
  cases h with
  | still htype => rw [if_pos htype]; rfl
  | shift htype => rw [if_neg (by simp [htype])]; rfl
  | turn htype => rw [if_neg (by rcases htype with htype | htype <;> simp [htype])]; rfl

/-- **The frames of a joint are its factors.** -/
theorem isBlock_nodes {j : Joint α} {p : JointPlan α} (h : j.plan vs = .ok p) (n : Nat) :
    j.IsBlock vs (p.nodes n) := by
  refine ⟨?_, shows_joint h n⟩
  rw [JointPlan.nodes, List.length_cons, length_motion (Joint.plan_eq_ok_iff.1 h).2]
  split <;> rfl

/-- **Joints one after the other** get their factors, one block after the other. -/
theorem exists_blocks {js : List (Joint α)} {ps : List (JointPlan α)}
    (h : List.Forall₂ (fun j p => j.plan vs = .ok p) js ps) (n : Nat) :
    ∃ blocks, layOut n ps = blocks.flatten ∧ List.Forall₂ (Joint.IsBlock vs) js blocks := by
  induction h generalizing n with
  | nil => exact ⟨[], rfl, .nil⟩
  | @cons j p js ps hp _ ih =>
    obtain ⟨blocks, hflat, hblocks⟩ := ih (n + p.count)
    exact ⟨p.nodes n :: blocks, congrArg (p.nodes n ++ ·) hflat,
      .cons (isBlock_nodes hp n) hblocks⟩

/-! ### What comes of a list of names -/

omit [Scalar α] in
/-- **Either all names are served, or one is the first that offends.** -/
theorem forall_isServed_or_offends (joints : List (Joint α)) (vs : Variables)
    (names : List String) :
    (∀ name ∈ names, IsServed joints vs name) ∨ ∃ pre name post fault kind,
      names = pre ++ name :: post ∧ (∀ other ∈ pre, IsServed joints vs other) ∧
        Offends joints vs name fault kind := by
  rcases forall_or_exists_first (fun name => IsServed joints vs name) names with
    hall | ⟨pre, name, post, heq, hpre, hname⟩
  · exact Or.inl hall
  · obtain ⟨fault, kind, hoffends⟩ := (isServed_or_offends joints vs name).resolve_left hname
    exact Or.inr ⟨pre, name, post, fault, kind, heq, hpre, hoffends⟩

omit [Scalar α] in
/-- **The entries that joints read** are those of the ones that are not fixed. -/
theorem exists_reads_iff {tree : Tree α} (hrooted : tree.IsRooted) {vs : Variables}
    {names : List String} {js : List (Joint α)}
    (hjs : List.Forall₂ (fun name j => tree.joint name = .ok j) names js) {i : Int} :
    (∃ j ∈ js, j.Reads vs i) ↔ ∃ name ∈ names, ∃ j ∈ tree.joints, j.name = name ∧
      j.type ≠ .fixed ∧ ∃ v, vs.find? name = some v ∧ v.index = i := by
  constructor
  · rintro ⟨j, hj, hmove, v, hv, hi⟩
    obtain ⟨name, hname, hfound⟩ := exists_of_mem_right hjs hj
    obtain ⟨hmem, rfl⟩ := hrooted.joint_eq_ok_iff.1 hfound
    exact ⟨j.name, hname, j, hmem, rfl, Joint.isMoveable_iff.1 hmove, v, hv, hi⟩
  · rintro ⟨name, hname, j, hj, rfl, hmove, v, hv, hi⟩
    obtain ⟨j', hj', hfound⟩ := exists_of_mem_left hjs hname
    rw [hrooted.joint_of_mem hj] at hfound
    obtain rfl := Except.ok.inj hfound
    exact ⟨j, hj', Joint.isMoveable_iff.2 hmove, v, hv, hi⟩

/-- **A list of names is planned** if all of them are served, -/
theorem exists_planOf_of_served {tree : Tree α} (hrooted : tree.IsRooted)
    (hshaped : ∀ j ∈ tree.joints, j.IsShaped) {vs : Variables} {names : List String}
    (hserved : ∀ name ∈ names, IsServed tree.joints vs name) :
    ∃ ps, planOf tree vs names = .ok ps :=
  exists_mapM_eq_ok fun name hname => (hserved name hname).exists_plan hrooted hshaped

/-- and otherwise the first that is not is reported. -/
theorem planOf_of_offends {tree : Tree α} (hrooted : tree.IsRooted)
    (hshaped : ∀ j ∈ tree.joints, j.IsShaped) {vs : Variables} {pre post : List String}
    {name : String} {fault : Fault α} {kind : Fault.Kind}
    (hpre : ∀ other ∈ pre, IsServed tree.joints vs other)
    (h : Offends tree.joints vs name fault kind) :
    planOf tree vs (pre ++ name :: post) = .error fault :=
  mapM_eq_error_iff.2 ⟨pre, name, post, rfl,
    fun other hother => (hpre other hother).exists_plan hrooted hshaped,
    h.plan_eq_error hrooted hshaped⟩

/-- **The frame of any list of names**, in a tree made from joints whose numbers are as many as
they should be, with any variables. It is built exactly if all names are served, and what is
reported otherwise is what is wrong with the first that is not. The frame that is built lists the
entries of the joints that are not fixed, and it is the product of the frame at rest and of one
factor for each fixed joint and two for each other, in the order of the names. -/
theorem chainFrame_outcome {name : String} {joints : List (Joint α)} {extra : List String}
    {tree : Tree α} (htree : Tree.ofJoints name joints extra = .ok tree)
    (hshaped : ∀ j ∈ joints, j.IsShaped) (vs : Variables) (names : List String) (n : Nat) :
    ((∃ f m, chainFrame tree vs names n = .ok (f, m)) ↔
      ∀ name ∈ names, IsServed joints vs name) ∧
    (∀ fault, chainFrame tree vs names n = .error fault ↔
      ∃ pre name post, names = pre ++ name :: post ∧ (∀ other ∈ pre, IsServed joints vs other) ∧
        Offends joints vs name fault fault.kind) ∧
    ∀ f m, chainFrame tree vs names n = .ok (f, m) →
      (∀ i, i ∈ (Node.frame f).inputs ↔ ∃ name ∈ names, ∃ j ∈ joints, j.name = name ∧
        j.type ≠ .fixed ∧ ∃ v, vs.find? name = some v ∧ v.index = i) ∧
      ∃ id id' start blocks, f = .cached id (.product id' (start :: blocks.flatten)) ∧
        start.IsRest ∧
        List.Forall₂ (fun name block => ∃ j ∈ joints, j.name = name ∧ j.IsBlock vs block)
          names blocks := by
  have hrooted := Tree.isRooted_of_ofJoints htree
  have hjoints : tree.joints = joints := by
    obtain ⟨_, -, -, rfl⟩ := Tree.ofJoints_eq_ok_iff.1 htree
    rfl
  subst hjoints
  rw [chainFrame_eq]
  have hcases := forall_isServed_or_offends tree.joints vs names
  refine ⟨⟨?_, fun hserved => ?_⟩, fun fault => ⟨fun h => ?_, ?_⟩, ?_⟩
  · rintro ⟨f, m, h⟩
    obtain ⟨ps, hps, -⟩ := exists_of_map_eq_ok h
    rcases hcases with hall | ⟨pre, name, post, fault, kind, rfl, hpre, hoffends⟩
    · exact hall
    · rw [planOf_of_offends hrooted hshaped hpre hoffends] at hps
      cases hps
  · obtain ⟨ps, hps⟩ := exists_planOf_of_served hrooted hshaped hserved
    rw [hps]
    exact ⟨_, _, rfl⟩
  · have hfault := of_map_eq_error h
    rcases hcases with hall | ⟨pre, name, post, fault', kind, heq, hpre, hoffends⟩
    · obtain ⟨ps, hps⟩ := exists_planOf_of_served hrooted hshaped hall
      rw [hps] at hfault
      cases hfault
    · rw [heq, planOf_of_offends hrooted hshaped hpre hoffends] at hfault
      obtain rfl := Except.error.inj hfault
      obtain rfl := hoffends.kind_eq
      exact ⟨pre, name, post, heq, hpre, hoffends⟩
  · rintro ⟨pre, name, post, rfl, hpre, hoffends⟩
    rw [planOf_of_offends hrooted hshaped hpre hoffends]
    rfl
  -- What has been built is laid out from the plans of joints that are found under the names.
  · intro f m h
    obtain ⟨ps, hps, h⟩ := exists_of_map_eq_ok h
    obtain ⟨rfl, -⟩ := Prod.mk.inj h
    obtain ⟨js, hjs, hplans⟩ := planOf_eq_ok_iff.1 hps
    obtain ⟨blocks, hflat, hblocks⟩ := exists_blocks hplans (n + 6)
    refine ⟨fun i => (mem_inputs_chainNode hplans n).trans (exists_reads_iff hrooted hjs),
      _, _, _, blocks, by rw [chainNode, hflat], isRest_node n, ?_⟩
    refine (forall₂_comp_iff.2 ⟨js, hjs, hblocks⟩).imp ?_
    rintro name block ⟨j, hj, hblock⟩
    obtain ⟨hmem, hname⟩ := hrooted.joint_eq_ok_iff.1 hj
    exact ⟨j, hmem, hname, hblock⟩

/-- **The mount of the cart before its slide, and after it again**, make up a frame of five
factors with one input, although they are on no chain in this order; without a variable the slide
is reported, whatever comes after it. -/
theorem chainFrame_outcome_cart :
    ∃ tree, Tree.ofJoints "cart" Robot.cartJoints [] = .ok tree ∧
      (∃ f m, chainFrame tree ⟨[⟨0, 0, "slide"⟩]⟩ ["mount", "slide", "mount"] 1 = .ok (f, m) ∧
        ∀ i, i ∈ (Node.frame f).inputs ↔ i = 0) ∧
      ∃ fault, chainFrame tree .empty ["mount", "slide", "ghost"] 1 = .error fault ∧
        fault.kind = .notFound := by
  have htree : Tree.ofJoints "cart" Robot.cartJoints [] =
      .ok (treeOf "cart" Robot.cartJoints [] "rail") := by cbv
  have hshaped : ∀ j ∈ Robot.cartJoints, j.IsShaped :=
    List.forall_mem_cons.2 ⟨⟨isTriple_real 0 0 0, rfl, isTriple_real 1 0 0⟩,
      List.forall_mem_singleton.2 ⟨isTriple_real 0 0 0, rfl, isTriple_real 1 0 0⟩⟩
  have hmount : ∀ vs, IsServed Robot.cartJoints vs "mount" := fun vs =>
    ⟨_, List.mem_cons_of_mem _ List.mem_cons_self, rfl, Or.inl rfl, fun h => absurd rfl h⟩
  have hslide : IsServed Robot.cartJoints ⟨[⟨0, 0, "slide"⟩]⟩ "slide" :=
    ⟨_, List.mem_cons_self, rfl, Or.inr (Or.inl rfl), fun _ => rfl⟩
  obtain ⟨hiff, -, hmade⟩ := chainFrame_outcome htree hshaped ⟨[⟨0, 0, "slide"⟩]⟩
    ["mount", "slide", "mount"] 1
  obtain ⟨-, hfault, -⟩ := chainFrame_outcome htree hshaped .empty ["mount", "slide", "ghost"] 1
  refine ⟨_, htree, ?_, .unregistered "slide", ?_, rfl⟩
  · obtain ⟨f, m, h⟩ := hiff.2 (by simp [hmount, hslide])
    refine ⟨f, m, h, fun i => ?_⟩
    rw [(hmade f m h).1]
    constructor
    · rintro ⟨name, -, j, -, -, -, v, hv, rfl⟩
      obtain rfl := List.mem_singleton.1 (List.mem_of_find?_eq_some hv)
      rfl
    · rintro rfl
      exact ⟨"slide", by simp, _, List.mem_cons_self, rfl, by decide, ⟨0, 0, "slide"⟩, rfl, rfl⟩
  · refine (hfault _).2 ⟨["mount"], "slide", ["ghost"], rfl, by simp [hmount], ?_⟩
    exact .unregistered List.mem_cons_self rfl (Or.inr (Or.inl rfl)) (by decide) rfl

end Linkage
