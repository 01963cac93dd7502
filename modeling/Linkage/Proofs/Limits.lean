import Linkage.Proofs.InputRange

/-!
# Hard constraints and limits

A hard constraint says how far its joint may still go, down and up. Over the real numbers that is
just another way to give the limits of the joint: the constraint holds
(`Linkage.Hard.Holds`) exactly if the entry of the joint is within them
(`Linkage.Robot.IsWithin`). As there is one constraint for each joint whose motion has an end, on
whatever chains it is, all constraints together say that all these joints are within their limits
(`Linkage.Robot.compile_limits`).
-/

namespace Linkage

/-- What is left of a limit after a real number. -/
theorem Number.less_ok (limit : Number ℝ) (x : ℝ) :
    limit.less (.ok x) = .ok (limit.value - x) := by
  rw [less, toScalar_eq]
  rfl

/-- **A hard constraint that holds** at an input vector: there is nothing left below, and nothing
exceeded above. -/
def Hard.Holds (c : Hard ℝ) (q : List ℝ) : Prop :=
  ∃ lower upper, c.lower.evaluate q = .ok lower ∧ c.upper.evaluate q = .ok upper ∧
    lower ≤ 0 ∧ 0 ≤ upper

namespace Robot

/-- **A joint within its limits**, by the entry of the input vector that is its own. -/
def IsWithin (r : Robot ℝ) (q : List ℝ) (j : Joint ℝ) : Prop :=
  ∃ limits v x, ∃ i : Nat, j.limits = some limits ∧ r.joint j.name = .ok v ∧ v.index = i ∧
    q[i]? = some x ∧ limits.lower.value ≤ x ∧ x ≤ limits.upper.value

variable {name root : String} {joints : List (Joint ℝ)} {extra : List String} {tree : Tree ℝ}
  {requests : List ChainRequest} {weights thresholds : Settings ℝ} {r : Robot ℝ}

/-- **The entry of a hard constraint** is that of its joint, and there is one. -/
theorem exists_entry_of_hard (h : compile tree root (.ok requests) weights thresholds = .ok r)
    {c : Hard ℝ} (hc : c ∈ r.hard) :
    ∃ v, ∃ i : Nat, r.joint c.joint = .ok v ∧ v.index = i ∧ i < r.size := by
  obtain ⟨asked, hserve⟩ := exists_serve_of_compile h
  obtain ⟨_, v, _, _, -, hv, -⟩ := (grounded_of_compile h).hard c hc
  obtain ⟨i, hi, hindex⟩ := hserve.exists_index_eq (joint_eq_ok_iff.1 hv)
  exact ⟨v, i, hv, hindex, hi⟩

/-- **A hard constraint holds** exactly if its joint is within its limits. -/
theorem holds_iff_isWithin (h : compile tree root (.ok requests) weights thresholds = .ok r)
    {c : Hard ℝ} (hc : c ∈ r.hard) {j : Joint ℝ} (hj : tree.joint c.joint = .ok j) {q : List ℝ}
    (hq : q.length = r.size) (hword : fitsWord q.length = true) : c.Holds q ↔ r.IsWithin q j := by
  obtain ⟨v, i, hv, hindex, hi⟩ := exists_entry_of_hard h hc
  obtain ⟨j', limits, hj', hlimits, hvalues⟩ := (grounded_of_compile h).hard_valuesAt hc
  rw [(madeFrom_of_compile h).tree_eq, hj] at hj'
  obtain rfl := Except.ok.inj hj'
  have hname : j.name = c.joint := Tree.name_of_joint_eq hj
  have hentry : q[i]? = some q[i] := List.getElem?_eq_getElem (hq ▸ hi)
  have hread : r.inputs.read q c.joint = .ok q[i] := by
    rw [read_eq_readInput hv, hindex]
    exact readInput_of_getElem? hentry hword
  obtain ⟨-, hbounds⟩ := Prod.mk.inj (hvalues q)
  obtain ⟨hlower, hupper⟩ := Prod.mk.inj hbounds
  rw [hread, Number.less_ok] at hlower hupper
  constructor
  · rintro ⟨lower, upper, hl, hu, hle, hge⟩
    obtain rfl := Except.ok.inj (hlower.symm.trans hl)
    obtain rfl := Except.ok.inj (hupper.symm.trans hu)
    exact ⟨limits, v, q[i], i, hlimits, hname ▸ hv, hindex, hentry, sub_nonpos.1 hle,
      sub_nonneg.1 hge⟩
  · rintro ⟨limits', v', x, i', hl, hv', hi', hx, hle, hge⟩
    -- The joint has the limits, the variable and the entry that the constraint speaks of.
    obtain rfl := Option.some.inj (hlimits.symm.trans hl)
    rw [hname, hv] at hv'
    obtain rfl := Except.ok.inj hv'
    obtain rfl : i = i' := by omega
    obtain rfl := Option.some.inj (hentry.symm.trans hx)
    exact ⟨_, _, hlower, hupper, sub_nonpos.2 hle, sub_nonneg.2 hge⟩

/-- **Joints with hard constraints** are those on the chains whose motion has an end. -/
theorem exists_hard_iff (htree : tree.IsRooted)
    (h : compile tree root (.ok requests) weights thresholds = .ok r) {j : Joint ℝ} :
    (∃ c ∈ r.hard, tree.joint c.joint = .ok j) ↔
      ∃ key ∈ r.chains, ∃ js, Leads tree.joints key.1 js key.2 ∧ j ∈ js ∧
        (j.type = .revolute ∨ j.type = .prismatic) := by
  obtain ⟨_, -, hr⟩ := aligned_of_compile h
  have habove := (madeFrom_of_compile h).above_eq
  constructor
  · rintro ⟨c, hc, hj⟩
    have hjoint : c.joint ∈ r.hard.map (·.joint) := List.mem_map_of_mem hc
    rw [hr.hard_joint, List.mem_filter, Tree.isBounded_of_joint_eq_ok hj] at hjoint
    obtain ⟨key, hkey, js, hjs, k, hk, -, hname⟩ := (hr.mem_jointNames_iff htree habove).1 hjoint.1
    have hfound := htree.joint_of_mem (hjs.subset hk)
    rw [hname, hj] at hfound
    obtain rfl := Except.ok.inj hfound
    exact ⟨key, hkey, js, hjs, hk, by simpa [JointType.isBounded] using hjoint.2⟩
  · rintro ⟨key, hkey, js, hjs, hj, htype⟩
    have hfound := htree.joint_of_mem (hjs.subset hj)
    have hmove : j.isMoveable = true := by
      rcases htype with htype | htype <;> rw [Joint.isMoveable, htype] <;> rfl
    have hname : j.name ∈ r.hard.map (·.joint) := by
      rw [hr.hard_joint, List.mem_filter, Tree.isBounded_of_joint_eq_ok hfound]
      refine ⟨(hr.mem_jointNames_iff htree habove).2 ⟨key, hkey, js, hjs, j, hj, hmove, rfl⟩, ?_⟩
      simpa [JointType.isBounded] using htype
    obtain ⟨c, hc, hjoint⟩ := List.mem_map.1 hname
    exact ⟨c, hc, hjoint ▸ hfound⟩

/-- **All hard constraints hold** exactly if every joint on a chain whose motion has an end is
within its limits, and each of them depends on one entry, that of its joint. What words can hold
is no matter of exact arithmetic, so the vector is not to have more entries than a word can
count. -/
theorem compile_limits (htree : Tree.ofJoints name joints extra = .ok tree)
    (h : compile tree root (.ok requests) weights thresholds = .ok r) :
    (∀ q : List ℝ, q.length = r.size → fitsWord q.length = true →
      ((∀ c ∈ r.hard, c.Holds q) ↔
        ∀ key ∈ r.chains, ∀ js, Leads joints key.1 js key.2 →
          ∀ j ∈ js, (j.type = .revolute ∨ j.type = .prismatic) → r.IsWithin q j)) ∧
    ∀ c ∈ r.hard, ∃ v, ∃ i : Nat, r.joint c.joint = .ok v ∧ v.index = i ∧ i < r.size ∧
      ∀ q q' : List ℝ, q.length = r.size → q'.length = r.size → q[i]? = q'[i]? →
        c.lower.evaluate q = c.lower.evaluate q' ∧ c.upper.evaluate q = c.upper.evaluate q' := by
  have hrooted := Tree.isRooted_of_ofJoints htree
  obtain ⟨top, -, -, rfl⟩ := Tree.ofJoints_eq_ok_iff.1 htree
  refine ⟨fun q hq hword => ⟨fun hall key hkey js hjs j hj htype => ?_, fun hall c hc => ?_⟩,
    fun c hc => ?_⟩
  · obtain ⟨c, hc, hfound⟩ := (exists_hard_iff hrooted h).2 ⟨key, hkey, js, hjs, hj, htype⟩
    exact (holds_iff_isWithin h hc hfound hq hword).1 (hall c hc)
  · obtain ⟨j, _, hfound, -, -⟩ := (grounded_of_compile h).hard_valuesAt hc
    rw [(madeFrom_of_compile h).tree_eq] at hfound
    obtain ⟨key, hkey, js, hjs, hj, htype⟩ := (exists_hard_iff hrooted h).1 ⟨c, hc, hfound⟩
    exact (holds_iff_isWithin h hc hfound hq hword).2 (hall key hkey js hjs j hj htype)
  · obtain ⟨v, i, hv, hindex, hi⟩ := exists_entry_of_hard h hc
    obtain ⟨w, hw, hinputs⟩ := (grounded_of_compile h).mem_inputs_of_hard hc
    obtain rfl := Except.ok.inj (hv.symm.trans hw)
    refine ⟨v, i, hv, hindex, hi, fun q q' hq hq' hentry => ?_⟩
    have hread : readInput q v.index = readInput q' v.index := by
      rw [readInput, readInput, hindex, inputPlace_of_lt (hq ▸ hi), inputPlace_of_lt (hq' ▸ hi),
        hentry]
    -- Neither bound lists anything but this entry.
    constructor
    · refine ScalarExpr.evaluate_congr fun k hk => ?_
      rw [← (hinputs k).2.1.1 hk, hread]
    · refine ScalarExpr.evaluate_congr fun k hk => ?_
      rw [← (hinputs k).2.2.1 hk, hread]

/-- **The crane with its slide or its slew at two and the other at three** keeps its hard
constraints exactly if its joints are within their limits. -/
theorem compile_limits_crane :
    ∃ r, compile craneTree "rail" (.ok [.ends "cart" "hook", .tip "hook", .tip "cart"])
        [("slide", .int 1), ("slew", .int 1)] [] = .ok r ∧
      ((∀ c ∈ r.hard, c.Holds [2, 3]) ↔
        ∀ j ∈ craneJoints, (j.type = .revolute ∨ j.type = .prismatic) → r.IsWithin [2, 3] j) := by
  obtain ⟨r, hok, hchains, hsize⟩ := exists_crane
  have hkey : ("rail", "hook") ∈ r.chains := by
    rw [hchains]
    decide
  obtain ⟨hiff, -⟩ := compile_limits ofJoints_crane hok
  refine ⟨r, hok, (hiff [2, 3] hsize.symm rfl).trans ⟨fun hall j hj => ?_, fun hall => ?_⟩⟩
  · exact hall _ hkey craneJoints leads_crane j hj
  · intro key _ js hjs j hj
    exact hall j (hjs.subset hj)

end Robot

end Linkage
