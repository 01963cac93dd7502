import Linkage.Proofs.Reading

/-!
# What the constraints of a robot come to

A constraint is built once, when its joint is met for the first time, and evaluated later. What it
comes to can be said without its nodes. A controllable constraint comes to what is resolved for
its joint from the settings, and a hard one to the limits of its joint less what is read for it.
That is because every constraint of a robot can be traced back to its joint, to the settings and
to the variable that the joint still has (`Linkage.Robot.Grounded`).

Which joints have constraints depends on the chains alone. They are the joints that move on some
chain (`Linkage.Robot.Aligned.mem_jointNames_iff`), each of them with a controllable constraint,
and with a hard one if its motion has an end (`Linkage.Robot.Aligned.hard_joint`).
-/

namespace Linkage

variable {α : Type}

/-! ### Values of constraints -/

/-- **A limit less what is read** for a joint. -/
def Number.less [Scalar α] (limit : Number α) (x : Except (Fault α) α) : Except (Fault α) α := do
  return (← limit.toScalar) - (← x)

theorem ScalarExpr.IsRemaining.evaluate_eq [Scalar α] {limit : Number α} {v : Variable}
    {e : ScalarExpr α} (h : e.IsRemaining limit v) (q : List α) :
    e.evaluate q = limit.less (readInput q v.index) := by
  obtain ⟨id, id', rfl⟩ := h
  simp only [ScalarExpr.evaluate, evaluateScalars, Number.less]
  rcases limit.toScalar with fault | a
  · rfl
  rcases readInput q v.index with fault | b
  · rfl
  rfl

/-- **What a controllable constraint comes to**: its weight, its lower and its upper bound. -/
def Controllable.valuesAt [Scalar α] (c : Controllable α) (q : List α) :
    Except (Fault α) α × Except (Fault α) α × Except (Fault α) α :=
  (c.weight.evaluate q, c.lower.evaluate q, c.upper.evaluate q)

/-- **What a hard constraint comes to**: the value of its joint, and what is left of it to the
lower and to the upper limit. -/
def Hard.valuesAt [Scalar α] (c : Hard α) (q : List α) :
    Except (Fault α) α × Except (Fault α) α × Except (Fault α) α :=
  (c.value.evaluate q, c.lower.evaluate q, c.upper.evaluate q)

/-- Whether the motion of a joint, given by name, has an end. -/
def Tree.isBounded (tree : Tree α) (name : String) : Bool :=
  (tree.joint name).toOption.any fun j => j.type.isBounded

theorem Tree.isBounded_of_joint_eq_ok {tree : Tree α} {name : String} {j : Joint α}
    (h : tree.joint name = .ok j) : tree.isBounded name = j.type.isBounded := by
  rw [isBounded, h]
  rfl

/-- Joints that are found under names may be chosen by their names. -/
theorem Tree.filter_isBounded_eq {tree : Tree α} {names : List String} {js : List (Joint α)}
    (h : List.Forall₂ (fun name j => tree.joint name = .ok j) names js) :
    (js.filter fun j => j.type.isBounded).map (·.name) = names.filter tree.isBounded := by
  induction h with
  | nil => rfl
  | @cons name j names js hj _ ih =>
    rw [List.filter_cons, List.filter_cons, isBounded_of_joint_eq_ok hj]
    split
    · rw [List.map_cons, ih, name_of_joint_eq hj]
    · exact ih

namespace Robot

/-! ### The joints with constraints -/

section Joints

variable {tree : Tree α} {root name : String} {asked : List ChainKey} {r : Robot α}

theorem Aligned.nodup_chains (hr : Aligned tree root asked r) : r.chains.Nodup := by
  rw [hr.chains_eq]
  exact nodup_eraseDups asked

theorem Aligned.nodup_jointNames (hr : Aligned tree root asked r) : r.jointNames.Nodup := by
  obtain ⟨paths, -, hserve, -⟩ := hr.joints
  rw [jointNames, hserve.names_eq]
  exact nodup_eraseDups paths.flatten

/-- **The joints of a robot** are those that move on its chains. -/
theorem Aligned.mem_jointNames_iff (hr : Aligned tree root asked r) (htree : tree.IsRooted)
    (habove : tree.parentLinks = .ok r.above) :
    name ∈ r.jointNames ↔ ∃ key ∈ r.chains, ∃ js, Leads tree.joints key.1 js key.2 ∧
      ∃ j ∈ js, j.isMoveable = true ∧ j.name = name := by
  obtain ⟨rfl, -, -, -, paths, hpaths, hserve, -⟩ := hr
  rw [jointNames, hserve.mem_names, List.mem_flatten]
  constructor
  · rintro ⟨path, hpath, hname⟩
    obtain ⟨key, hkey, hnames⟩ := exists_of_mem_right hpaths hpath
    obtain ⟨js, hjs, rfl⟩ := htree.leads_of_pathNames habove hnames
    obtain ⟨j, hj, rfl⟩ := List.mem_map.1 hname
    rw [List.mem_filter, Bool.false_or] at hj
    exact ⟨key, hkey, js, hjs, j, hj.1, hj.2, rfl⟩
  · rintro ⟨key, hkey, js, hjs, j, hj, hmove, rfl⟩
    obtain ⟨path, hpath, hnames⟩ := exists_of_mem_left hpaths hkey
    have hall := htree.pathNames_of_leads habove hjs false
    obtain rfl := Except.ok.inj (hnames.symm.trans hall)
    refine ⟨_, hpath, List.mem_map_of_mem (List.mem_filter.2 ⟨hj, ?_⟩)⟩
    rw [Bool.false_or, hmove]

/-- The controllable constraints are kept in the order in which they are given out. -/
theorem Aligned.controllables_eq (hr : Aligned tree root asked r) :
    r.controllables = r.controllable := by
  obtain ⟨paths, -, hserve, hcovers⟩ := hr.joints
  exact hcovers.controllables_eq hserve

/-- **Each joint has one controllable constraint**, in the order of the joints. -/
theorem Aligned.controllable_joint (hr : Aligned tree root asked r) :
    r.controllable.map (·.joint) = r.jointNames := by
  obtain ⟨paths, -, hserve, hcovers⟩ := hr.joints
  rw [hcovers.controllable_eq, jointNames, hserve.names_eq]

/-- **Each joint whose motion has an end has one hard constraint**, in the order of the joints. -/
theorem Aligned.hard_joint (hr : Aligned tree root asked r) :
    r.hard.map (·.joint) = r.jointNames.filter tree.isBounded := by
  obtain ⟨rfl, -, -, -, paths, -, hserve, hcovers⟩ := hr
  obtain ⟨js, hjs, hhard⟩ := hcovers.hard_eq
  rw [hhard, Tree.filter_isBounded_eq hjs, jointNames, hserve.names_eq]

end Joints

/-! ### Constraints that can be traced back -/

section Given

variable [Scalar α] {tree : Tree α} {root : String} {weights thresholds : Settings α}
  {r r' : Robot α}

/-- **No chain changes what a robot was given.** -/
theorem MadeFrom.addChain (hr : MadeFrom tree root weights thresholds r) {key : ChainKey}
    (hok : r.addChain key = .ok r') : MadeFrom tree root weights thresholds r' := by
  obtain ⟨rfl, rfl, habove, rfl, rfl⟩ := hr
  rcases addChain_eq_ok hok with ⟨-, rfl⟩ | ⟨-, _, _, _, _, _, _, _, _, -, -, -, -, hconstrain, rfl⟩
  · exact ⟨rfl, rfl, habove, rfl, rfl⟩
  · obtain ⟨cs, hs, k, rfl⟩ := constrainAll_eq_ok hconstrain
    exact ⟨rfl, rfl, habove, rfl, rfl⟩

theorem madeFrom_of_compile {requests : List ChainRequest}
    (h : compile tree root (.ok requests) weights thresholds = .ok r) :
    MadeFrom tree root weights thresholds r := by
  obtain ⟨above, r₀, line, habove, hadd, rfl⟩ := compile_eq_ok h
  have hbare : MadeFrom tree root weights thresholds (bare tree root above weights thresholds) :=
    ⟨rfl, rfl, habove, rfl, rfl⟩
  obtain ⟨htree, hroot, habove, hweights, hthresholds⟩ :=
    addChains_induction (fun hr => hr.addChain) hbare hadd
  exact ⟨htree, hroot, habove, hweights, hthresholds⟩

/-- **A robot all of whose constraints have grounds.** Each is what was built for the joint of its
name, from the settings and from the variable that the joint has. -/
structure Grounded (r : Robot α) : Prop where
  controllable : ∀ c ∈ r.controllable, ∃ j v n m, r.tree.joint c.joint = .ok j ∧
    r.joint c.joint = .ok v ∧ j.controllable v r.weights r.thresholds n = .ok (c, m)
  hard : ∀ c ∈ r.hard, ∃ j v n m, r.tree.joint c.joint = .ok j ∧
    r.joint c.joint = .ok v ∧ j.hard v n = .ok (some c, m)

/-- Constraints keep their grounds when further joints get variables. -/
theorem Grounded.of_keeps (hr : Grounded r) (htree : r'.tree = r.tree)
    (hweights : r'.weights = r.weights) (hthresholds : r'.thresholds = r.thresholds)
    (hcontrollable : r'.controllable = r.controllable) (hhard : r'.hard = r.hard)
    (hkeep : ∀ name v, r.joint name = .ok v → r'.joint name = .ok v) : Grounded r' where
  controllable c hc := by
    rw [htree, hweights, hthresholds]
    obtain ⟨j, v, n, m, hj, hv, hbuilt⟩ := hr.controllable c (hcontrollable ▸ hc)
    exact ⟨j, v, n, m, hj, hkeep c.joint v hv, hbuilt⟩
  hard c hc := by
    rw [htree]
    obtain ⟨j, v, n, m, hj, hv, hbuilt⟩ := hr.hard c (hhard ▸ hc)
    exact ⟨j, v, n, m, hj, hkeep c.joint v hv, hbuilt⟩

/-- **The constraints of one joint more** have grounds. -/
theorem Grounded.constrain (hr : Grounded r) {name : String} (hok : r.constrain name = .ok r') :
    Grounded r' := by
  rcases constrain_eq_ok hok with ⟨-, rfl⟩ | ⟨-, j, v, c, b, n, m, hj, hv, hc, hb, rfl⟩
  · exact hr
  obtain rfl := Tree.name_of_joint_eq hj
  refine ⟨fun d hd => ?_, fun d hd => ?_⟩
  · rcases List.mem_append.1 hd with hbefore | hnow
    · exact hr.controllable d hbefore
    · obtain rfl := List.mem_singleton.1 hnow
      obtain ⟨_, _, -, -, rfl, -⟩ := controllable_eq_ok hc
      exact ⟨j, v, _, n, hj, hv, hc⟩
  · rcases List.mem_append.1 hd with hbefore | hnow
    · exact hr.hard d hbefore
    · obtain rfl : b = some d := Option.mem_toList.1 hnow
      rw [((hard_eq_ok hb).2 d rfl).1]
      exact ⟨j, v, n, m, hj, hv, hb⟩

/-- **With one chain more** all constraints have grounds still. -/
theorem Grounded.addChain (hr : Grounded r) {key : ChainKey} (hok : r.addChain key = .ok r') :
    Grounded r' := by
  rcases addChain_eq_ok hok with ⟨-, rfl⟩ |
    ⟨-, moving, _, vs, n, log, f, m, r₂, -, -, hassign, -, hconstrain, rfl⟩
  · exact hr.of_keeps rfl rfl rfl rfl rfl fun _ _ hv => hv
  have hkeep : ∀ name v, r.joint name = .ok v → (r.assignAll moving).joint name = .ok v :=
    fun name v hv => joint_eq_ok_iff.2 (find?_assignAll (joint_eq_ok_iff.1 hv) moving)
  rw [hassign] at hkeep
  -- The joints get their inputs before any of them is constrained.
  have hassigned : Grounded { r with
      inputs := vs, nextId := m, log := log, frames := ⟨r.frames.entries ++ [(key, f)]⟩,
      chains := r.chains ++ [key] } := hr.of_keeps rfl rfl rfl rfl rfl hkeep
  have hconstrained := constrainAll_induction (fun hr => hr.constrain) hassigned hconstrain
  exact hconstrained.of_keeps rfl rfl rfl rfl rfl fun _ _ hv => hv

theorem grounded_of_compile {requests : List ChainRequest}
    (h : compile tree root (.ok requests) weights thresholds = .ok r) : Grounded r := by
  obtain ⟨above, r₀, line, -, hadd, rfl⟩ := compile_eq_ok h
  have hbare : Grounded (bare tree root above weights thresholds) :=
    ⟨fun _ hc => absurd hc List.not_mem_nil, fun _ hc => absurd hc List.not_mem_nil⟩
  have hr := addChains_induction (fun hr => hr.addChain) hbare hadd
  exact hr.of_keeps rfl rfl rfl rfl rfl fun _ _ hv => hv

/-- **A controllable constraint comes to what is resolved for its joint.** -/
theorem Grounded.controllable_valuesAt (hr : Grounded r) {c : Controllable α}
    (hc : c ∈ r.controllable) :
    ∃ j w limit, r.tree.joint c.joint = .ok j ∧ resolveWeight c.joint r.weights = .ok w ∧
      resolveVelocity j r.thresholds = .ok limit ∧
      ∀ q, c.valuesAt q = (.ok w, .ok (-limit), .ok limit) := by
  obtain ⟨j, v, n, m, hj, -, hbuilt⟩ := hr.controllable c hc
  obtain ⟨w, limit, hw, hlimit, rfl, -⟩ := controllable_eq_ok hbuilt
  exact ⟨j, w, limit, hj, hw, hlimit, fun q => rfl⟩

/-- **A hard constraint comes to the limits of its joint less what is read for it.** -/
theorem Grounded.hard_valuesAt (hr : Grounded r) {c : Hard α} (hc : c ∈ r.hard) :
    ∃ j limits, r.tree.joint c.joint = .ok j ∧ j.limits = some limits ∧
      ∀ q, c.valuesAt q = (r.inputs.read q c.joint, limits.lower.less (r.inputs.read q c.joint),
        limits.upper.less (r.inputs.read q c.joint)) := by
  obtain ⟨j, v, n, m, hj, hv, hbuilt⟩ := hr.hard c hc
  obtain ⟨-, hvalue, limits, hlimits, hlower, hupper⟩ := (hard_eq_ok hbuilt).2 c rfl
  refine ⟨j, limits, hj, hlimits, fun q => ?_⟩
  rw [Hard.valuesAt, hvalue, hlower.evaluate_eq, hupper.evaluate_eq, read_eq_readInput hv]
  rfl

end Given

end Robot

end Linkage
