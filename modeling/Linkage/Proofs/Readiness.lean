import Linkage.Proofs.ConstraintValues

/-!
# What it takes to make a robot

A robot can be made exactly if every chain that is asked for can be worked out, and whether a
chain can be worked out is a matter of its joints and of the settings (`Linkage.ChainReady`).
What the robot has already makes no difference: it lets a chain or a joint be passed over, but
what is passed over has been worked out before.

No more is asked of the tree than that it is one. A pose may have too many numbers, or an integer
may be too large for `α`; that is just another reason for which a chain cannot be worked out.

* `Linkage.Robot.exists_addChain` – a chain that is ready is worked out, in one step;
* `Linkage.Robot.chainReady_of_compile` – a chain that has been worked out was ready;
* `Linkage.Robot.exists_compile_iff` – when a robot can be made.
-/

namespace Linkage

variable {α : Type} [Scalar α]

/-! ### Chains that can be worked out -/

/-- **A joint that can be worked out**: its numbers are as many as they should be, its type has a
motion, and if it moves a weight and a velocity are found for it. -/
structure Joint.IsReady (weights thresholds : Settings α) (j : Joint α) : Prop where
  position : IsTriple j.origin.position
  rotation : j.origin.rotation.length = 4
  type : j.type.IsModeled
  axis : j.isMoveable = true → IsTriple j.axis
  weight : j.isMoveable = true → ∃ w, resolveWeight j.name weights = .ok w
  velocity : j.isMoveable = true → ∃ limit, resolveVelocity j thresholds = .ok limit

/-- **A chain that can be worked out**: joints lead from its root to its tip that can be. -/
def ChainReady (tree : Tree α) (weights thresholds : Settings α) (key : ChainKey) : Prop :=
  ∃ js, Leads tree.joints key.1 js key.2 ∧ ∀ j ∈ js, j.IsReady weights thresholds

/-- A joint for which a velocity is found has limits. -/
theorem exists_limits_of_resolveVelocity {j : Joint α} {thresholds : Settings α} {limit : α}
    (h : resolveVelocity j thresholds = .ok limit) : ∃ limits, j.limits = some limits := by
  rw [resolveVelocity] at h
  rcases hl : j.limits with _ | limits
  · rw [hl] at h
    cases h
  · exact ⟨limits, rfl⟩

namespace Robot

variable {tree : Tree α} {root : String} {weights thresholds : Settings α} {r : Robot α}

/-! ### One step -/

/-- **A joint that is found, with a variable, a weight and a velocity, is constrained.** -/
theorem exists_constrain {name : String} {j : Joint α} {v : Variable} {w limit : α}
    (hj : r.tree.joint name = .ok j) (hv : r.joint name = .ok v)
    (hw : resolveWeight j.name r.weights = .ok w)
    (hlimit : resolveVelocity j r.thresholds = .ok limit) : ∃ r', r.constrain name = .ok r' := by
  rcases hdone : r.isConstrained name with _ | _
  · obtain ⟨limits, hl⟩ := exists_limits_of_resolveVelocity hlimit
    obtain ⟨c, n, hc, -⟩ := exists_controllable hw hlimit v r.nextId
    obtain ⟨b, m, hb⟩ := exists_hard hl v n
    exact ⟨_, constrain_of_built hdone hj hv hc hb⟩
  · refine ⟨r, ?_⟩
    rw [constrain, if_pos hdone]
    rfl

/-- **So are all joints of a list.** Constraining one changes neither the tree nor the settings, nor
what variables there are. -/
theorem exists_constrainAll {names : List String}
    (h : ∀ name ∈ names, ∃ j v w limit, r.tree.joint name = .ok j ∧ r.joint name = .ok v ∧
      resolveWeight j.name r.weights = .ok w ∧ resolveVelocity j r.thresholds = .ok limit) :
    ∃ r', r.constrainAll names = .ok r' := by
  induction names generalizing r with
  | nil => exact ⟨r, rfl⟩
  | cons name names ih =>
    rw [List.forall_mem_cons] at h
    obtain ⟨j, v, w, limit, hj, hv, hw, hlimit⟩ := h.1
    obtain ⟨r₁, hfirst⟩ := exists_constrain hj hv hw hlimit
    have hothers : ∃ r', r₁.constrainAll names = .ok r' := by
      rcases constrain_eq_ok hfirst with ⟨-, rfl⟩ | ⟨-, _, _, _, _, _, _, -, -, -, -, rfl⟩
      · exact ih h.2
      · exact ih h.2
    rw [constrainAll, hfirst]
    exact hothers

/-- **What is left to be done for a chain** whose joints can be worked out, and have inputs if they
move, is done. -/
theorem exists_equip (htree : r.tree.IsRooted) {key : ChainKey}
    (hkey : r.frames.contains key = false) {js : List (Joint α)} (hjs : js ⊆ r.tree.joints)
    (hready : ∀ j ∈ js, j.IsReady r.weights r.thresholds)
    (hv : ∀ j ∈ js, j.isMoveable = true → r.inputs.contains j.name = true) :
    ∃ r', r.equip key ((js.filter Joint.isMoveable).map (·.name)) (js.map (·.name)) = .ok r' := by
  have hframed : ∀ j ∈ js, j.IsFramed r.inputs := fun j hj =>
    Joint.isFramed_of_isTriple (hready j hj).position (hready j hj).rotation (hready j hj).axis
      (hready j hj).type (hv j hj)
  obtain ⟨f, n, hequip⟩ := equip_of_framed htree hkey hjs hframed
    ((js.filter Joint.isMoveable).map (·.name))
  have hconstrain : ∃ r', constrainAll { r with
      nextId := n, frames := ⟨r.frames.entries ++ [(key, f)]⟩, chains := r.chains ++ [key] }
      ((js.filter Joint.isMoveable).map (·.name)) = .ok r' := by
    refine exists_constrainAll fun name hname => ?_
    obtain ⟨j, hj, rfl⟩ := List.mem_map.1 hname
    obtain ⟨hj, hmove⟩ := List.mem_filter.1 hj
    obtain ⟨w, hw⟩ := (hready j hj).weight hmove
    obtain ⟨limit, hlimit⟩ := (hready j hj).velocity hmove
    obtain ⟨v, hlookup⟩ := exists_lookup (α := α) (hv j hj hmove)
    exact ⟨j, v, w, limit, htree.joint_of_mem (hjs hj), hlookup, hw, hlimit⟩
  obtain ⟨r', hok⟩ := hconstrain
  refine ⟨r'.write (.compiled key (js.map (·.name)).length), ?_⟩
  rw [hequip, hok]
  rfl

/-- **A chain that can be worked out is added**, or was before. -/
theorem exists_addChain (htree : tree.IsRooted) (hr : MadeFrom tree root weights thresholds r)
    {key : ChainKey} (hready : ChainReady tree weights thresholds key) :
    ∃ r', r.addChain key = .ok r' := by
  rcases hkey : r.frames.contains key with _ | _
  · obtain ⟨js, hjs, hall⟩ := hready
    rw [addChain_of_leads htree hr hkey hjs]
    obtain ⟨rfl, rfl, -, rfl, rfl⟩ := hr
    obtain ⟨vs, n, log, hassign, -, hvars⟩ :=
      r.assignAll_eq ((js.filter Joint.isMoveable).map (·.name))
    rw [hassign]
    refine exists_equip (r := { r with inputs := vs, nextId := n, log := log }) htree hkey
      hjs.subset hall fun j hj hmove => ?_
    exact hvars j.name (List.mem_map_of_mem (List.mem_filter.2 ⟨hj, hmove⟩))
  · exact ⟨r.write (.repeated key), by rw [addChain, if_pos hkey]; rfl⟩

/-! ### All chains that are asked for -/

/-- **Chains that can be worked out are added** one after the other. -/
theorem exists_addChains (htree : tree.IsRooted) (hr : MadeFrom tree root weights thresholds r)
    {requests : List ChainRequest} {keys : List ChainKey}
    (hkeys : Names (α := α) root requests keys)
    (hready : ∀ key ∈ keys, ChainReady tree weights thresholds key) :
    ∃ r', r.addChains requests = .ok r' := by
  induction hkeys generalizing r with
  | nil => exact ⟨r, rfl⟩
  | @cons q key requests keys hq _ ih =>
    rw [List.forall_mem_cons] at hready
    obtain ⟨r₁, hadd⟩ := exists_addChain htree hr hready.1
    obtain ⟨r', hok⟩ := ih (hr.addChain hadd) hready.2
    refine ⟨r', ?_⟩
    rw [addChains, hr.root_eq, hq]
    change (r.addChain key >>= _) = _
    rw [hadd]
    exact hok

/-- **A chain that has been worked out could be.** Its frame has been built, and those of its joints
that move have been constrained, if not for this chain then for another. -/
theorem chainReady_of_compile (htree : tree.IsRooted) {requests : List ChainRequest}
    (h : compile tree root (.ok requests) weights thresholds = .ok r) {key : ChainKey}
    (hkey : key ∈ r.chains) : ChainReady tree weights thresholds key := by
  obtain ⟨-, js, -, hjs, hframed, -⟩ := (traced_of_compile h).exists_frame htree hkey
  obtain ⟨keys, -, hr⟩ := aligned_of_compile h
  obtain ⟨rfl, rfl, habove, rfl, rfl⟩ := madeFrom_of_compile h
  -- A joint that moves has a constraint, for which its weight and its velocity were resolved.
  have hsettings : ∀ j ∈ js, j.isMoveable = true →
      (∃ w, resolveWeight j.name r.weights = .ok w) ∧
        ∃ limit, resolveVelocity j r.thresholds = .ok limit := by
    intro j hj hmove
    have hname : j.name ∈ r.jointNames :=
      (hr.mem_jointNames_iff htree habove).2 ⟨key, hkey, js, hjs, j, hj, hmove, rfl⟩
    rw [← hr.controllable_joint] at hname
    obtain ⟨c, hc, hjoint⟩ := List.mem_map.1 hname
    obtain ⟨i, w, limit, hi, hw, hlimit, -⟩ := (grounded_of_compile h).controllable_valuesAt hc
    rw [hjoint, htree.joint_of_mem (hjs.subset hj)] at hi
    obtain rfl := Except.ok.inj hi
    exact ⟨⟨w, hjoint ▸ hw⟩, limit, hlimit⟩
  refine ⟨js, hjs, fun j hj => ?_⟩
  obtain ⟨w, x, y, z, hrotation⟩ := (hframed j hj).rotation
  exact {
    position := isTriple_iff.2 (hframed j hj).position
    rotation := by rw [hrotation]; rfl
    type := (hframed j hj).type
    axis := fun hmove => isTriple_iff.2 ((hframed j hj).axis hmove)
    weight := fun hmove => (hsettings j hj hmove).1
    velocity := fun hmove => (hsettings j hj hmove).2 }

/-- **A robot can be made exactly if every chain that is asked for can be worked out.** -/
theorem exists_compile_iff (htree : tree.IsRooted) {requests : List ChainRequest} :
    (∃ r, compile tree root (.ok requests) weights thresholds = .ok r) ↔
      ∃ keys, Names (α := α) root requests keys ∧
        ∀ key ∈ keys, ChainReady tree weights thresholds key := by
  constructor
  · rintro ⟨r, h⟩
    obtain ⟨keys, hkeys, hr⟩ := aligned_of_compile h
    refine ⟨keys, hkeys, fun key hkey => chainReady_of_compile htree h ?_⟩
    exact hr.mem_chains_iff.2 hkey
  · rintro ⟨keys, hkeys, hready⟩
    obtain ⟨above, habove, -⟩ := htree.exists_parentLinks
    have hbare : MadeFrom tree root weights thresholds (bare tree root above weights thresholds) :=
      ⟨rfl, rfl, habove, rfl, rfl⟩
    obtain ⟨r, hok⟩ := exists_addChains htree hbare hkeys hready
    exact ⟨_, compile_of_addChains habove hok⟩

end Robot

end Linkage
