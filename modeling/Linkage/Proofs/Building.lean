import Linkage.Constraint
import Linkage.Proofs.FramePlan
import Mathlib.Data.List.Basic

/-!
# Which nodes can be built

Everything that a robot needs of a joint is built by a `Linkage.Builder`: the frames of its place
and its motion, and its two constraints. Whether that succeeds never depends on the numbers that
nodes get. The frames of joints are built if the joints can be planned (`Linkage.chainFrame_eq`),
and for the constraints there are equations here that say the same (`Linkage.controllable_eq_bind`,
`Linkage.hard_eq`).

What can be wrong with a joint is of two kinds. Its type may have no motion, which is found out when
it is planned (`Linkage.Joint.plan_of_not_isModeled`). Or it is not *settled*
(`Linkage.Joint.IsSettled`): the weight that is set for it, its limits or the velocity that is set
for it do not do, which is found out when its velocity is bounded. The causes of the second kind
come in an order of their own, `Linkage.Joint.SettingFault`.

Numbers are assumed to be what they are declared to be (`Linkage.Joint.IsMeasured`): three or four
where a vector or a rotation is wanted, and none of them an integer so large that no member of `α`
is near it.
-/

namespace Linkage

variable {α : Type} [Scalar α]

/-! ### Numbers and vectors -/

/-- A number that some member of `α` stands for. -/
def Number.HasScalar (x : Number α) : Prop := ∃ a, x.toScalar? = some a

theorem Number.hasScalar_real (x : α) : (Number.real x).HasScalar := ⟨x, rfl⟩

theorem Number.hasScalar_iff {x : Number α} : x.HasScalar ↔ ∃ a, x.toScalar = .ok a := by
  rw [HasScalar, toScalar]
  rcases x.toScalar? with _ | a
  · simp
  · simp

/-- Three numbers, each with a member of `α` for it. -/
def IsTriple (xs : List (Number α)) : Prop := xs.length = 3 ∧ ∀ x ∈ xs, x.HasScalar

/-- Members of `α` are what is wanted. -/
theorem isTriple_real (x y z : α) :
    IsTriple [Number.real x, Number.real y, Number.real z] := by
  refine ⟨rfl, fun a ha => ?_⟩
  simp only [List.mem_cons, List.not_mem_nil, or_false] at ha
  rcases ha with rfl | rfl | rfl <;> exact Number.hasScalar_real _

/-- **Numbers make a vector** exactly if they are three. -/
theorem isTriple_iff {xs : List (Number α)} : IsTriple xs ↔ ∃ p, Vec3.ofNumbers xs = .ok p := by
  constructor
  · rintro ⟨hlength, hall⟩
    obtain ⟨x, y, z, rfl⟩ := List.length_eq_three.1 hlength
    obtain ⟨a, ha⟩ := Number.hasScalar_iff.1 (hall x (by simp))
    obtain ⟨b, hb⟩ := Number.hasScalar_iff.1 (hall y (by simp))
    obtain ⟨c, hc⟩ := Number.hasScalar_iff.1 (hall z (by simp))
    refine ⟨⟨a, b, c⟩, ?_⟩
    change (x.toScalar >>= fun _ => y.toScalar >>= fun _ => z.toScalar >>= fun _ => _) = _
    rw [ha, hb, hc]
    rfl
  · rintro ⟨p, hp⟩
    obtain ⟨⟨x, y, z⟩, hthree, hp⟩ := exists_of_bind_eq_ok hp
    obtain ⟨a, ha, hp⟩ := exists_of_bind_eq_ok hp
    obtain ⟨b, hb, hp⟩ := exists_of_bind_eq_ok hp
    obtain ⟨c, hc, -⟩ := exists_of_bind_eq_ok hp
    unfold three at hthree
    split at hthree
    · cases hthree
      refine ⟨rfl, ?_⟩
      simp only [List.forall_mem_cons]
      exact ⟨Number.hasScalar_iff.2 ⟨a, ha⟩, Number.hasScalar_iff.2 ⟨b, hb⟩,
        Number.hasScalar_iff.2 ⟨c, hc⟩, by simp⟩
    · cases hthree

/-! ### The frames of joints -/

/-- **A joint whose numbers are what they are declared to be.** -/
structure Joint.IsMeasured (j : Joint α) : Prop where
  position : IsTriple j.origin.position
  rotation : j.origin.rotation.length = 4
  axis : IsTriple j.axis
  velocity : ∀ limits, j.limits = some limits → limits.velocity.HasScalar

omit [Scalar α] in
/-- A joint that has a variable finds it. -/
theorem exists_lookup {vs : Variables} {name : String} (h : vs.contains name = true) :
    ∃ v, (vs.lookup name : Except (Fault α) Variable) = .ok v := by
  obtain ⟨v, hv⟩ := Option.isSome_iff_exists.1 h
  exact ⟨v, Variables.lookup_eq_ok_iff.2 hv⟩

/-- A pose with as many numbers as it should have can be planned. -/
theorem exists_placePlan {pose : Pose α} (hposition : IsTriple pose.position)
    (hrotation : pose.rotation.length = 4) : ∃ p, pose.plan = .ok p := by
  obtain ⟨position, hposition⟩ := isTriple_iff.1 hposition
  obtain ⟨w, x, y, z, hrotation⟩ := List.length_eq_four.1 hrotation
  exact ⟨⟨position, w, x, y, z⟩, Pose.plan_eq_ok_iff.2 ⟨hposition, hrotation⟩⟩

/-- **A joint of a type that has a motion gets its frames**, if it has an axis and a variable or
needs neither. -/
theorem Joint.isFramed_of_isTriple {j : Joint α} {vs : Variables}
    (hposition : IsTriple j.origin.position) (hrotation : j.origin.rotation.length = 4)
    (haxis : j.isMoveable = true → IsTriple j.axis) (ht : j.type.IsModeled)
    (hv : j.isMoveable = true → vs.contains j.name = true) : j.IsFramed vs where
  position := isTriple_iff.1 hposition
  rotation := List.length_eq_four.1 hrotation
  type := ht
  axis hmove := isTriple_iff.1 (haxis hmove)
  input hmove := Option.isSome_iff_exists.1 (hv hmove)

theorem Joint.IsMeasured.isFramed {j : Joint α} (h : j.IsMeasured) (ht : j.type.IsModeled)
    {vs : Variables} (hv : j.isMoveable = true → vs.contains j.name = true) : j.IsFramed vs :=
  isFramed_of_isTriple h.position h.rotation (fun _ => h.axis) ht hv

section Chains

variable {tree : Tree α} {vs : Variables} {t : FrameTable α} {key : ChainKey}

/-- **Joints that can be planned** are, under their names, -/
theorem exists_planOf {js : List (Joint α)} (hfound : ∀ j ∈ js, tree.joint j.name = .ok j)
    (hframed : ∀ j ∈ js, j.IsFramed vs) : ∃ ps, planOf tree vs (js.map (·.name)) = .ok ps := by
  refine exists_mapM_eq_ok (List.forall_mem_map.2 fun j hj => ?_)
  obtain ⟨p, hp⟩ := Joint.isFramed_iff.1 (hframed j hj)
  exact ⟨p, by rw [namedPlan_of_joint (hfound j hj), hp]⟩

/-- and **the first that cannot stops those after it.** -/
theorem planOf_eq_error {pre post : List (Joint α)} {j : Joint α} {fault : Fault α}
    (hfound : ∀ i ∈ pre, tree.joint i.name = .ok i) (hframed : ∀ i ∈ pre, i.IsFramed vs)
    (hj : tree.joint j.name = .ok j) (hfault : j.plan vs = .error fault) :
    planOf tree vs ((pre ++ j :: post).map (·.name)) = .error fault := by
  refine mapM_eq_error_iff.2 ⟨pre.map (·.name), j.name, post.map (·.name), by simp,
    List.forall_mem_map.2 fun i hi => ?_, ?_⟩
  · obtain ⟨p, hp⟩ := Joint.isFramed_iff.1 (hframed i hi)
    exact ⟨p, by rw [namedPlan_of_joint (hfound i hi), hp]⟩
  · rw [namedPlan_of_joint hj, hfault]

omit [Scalar α] in
theorem FrameTable.lookup_of_not_contains (h : t.contains key = false) :
    t.entries.lookup key = none := by
  simpa [contains] using h

/-- **What is not in a table is built for it**, and comes last. -/
theorem FrameTable.getOrBuild_of_not_contains (h : t.contains key = false) (names : List String)
    (n : Nat) :
    t.getOrBuild tree vs key names n = (chainFrame tree vs names n).map fun x =>
      ((x.1, ⟨t.entries ++ [(key, x.1)]⟩), x.2) := by
  rw [getOrBuild, lookup_of_not_contains h]
  change (chainFrame tree vs names n >>= _) = _
  rcases chainFrame tree vs names n with fault | x
  · rfl
  · rfl

end Chains

/-! ### The settings of a joint -/

omit [Scalar α] in
/-- **The velocity chosen for a joint**: the one set for it, else the one set for all, else
the one it can do. -/
def Joint.chosenVelocity (j : Joint α) (thresholds : Settings α) (limits : Limits α) : Number α :=
  (thresholds.find? j.name defaultVelocityKey).getD limits.velocity

/-- **A joint for which everything is set**: a weight of at least zero, limits, and a
velocity that is within them. -/
def Joint.IsSettled (weights thresholds : Settings α) (j : Joint α) : Prop :=
  ∃ w limits, weights.find? j.name defaultWeightKey = some w ∧ (Number.int 0).le w = true ∧
    j.limits = some limits ∧ (j.chosenVelocity thresholds limits).le limits.velocity = true

/-- **What is wrong with the settings of a joint**, the first thing of four. -/
inductive Joint.SettingFault (weights thresholds : Settings α) (j : Joint α) : Fault α → Prop
  /-- No weight is set. -/
  | noWeight (hw : weights.find? j.name defaultWeightKey = none) :
    SettingFault weights thresholds j (.noWeight j.name)
  /-- The weight is not at least zero. -/
  | negativeWeight {w : Number α} (hw : weights.find? j.name defaultWeightKey = some w)
      (hle : (Number.int 0).le w = false) :
    SettingFault weights thresholds j (.negativeWeight j.name w)
  /-- The weight will do, but there are no limits. -/
  | noLimits {w : Number α} (hw : weights.find? j.name defaultWeightKey = some w)
      (hle : (Number.int 0).le w = true) (hl : j.limits = none) :
    SettingFault weights thresholds j (.noLimits j.name)
  /-- Weight and limits will do, but the velocity is not within them. -/
  | tooFast {w : Number α} {limits : Limits α}
      (hw : weights.find? j.name defaultWeightKey = some w) (hle : (Number.int 0).le w = true)
      (hl : j.limits = some limits)
      (hv : (j.chosenVelocity thresholds limits).le limits.velocity = false) :
    SettingFault weights thresholds j
      (.tooFast j.name (j.chosenVelocity thresholds limits) limits.velocity)

section Settings

variable {weights thresholds : Settings α} {j : Joint α}

/-- Either everything is set for a joint, or something is wrong. -/
theorem settled_or_fault (weights thresholds : Settings α) (j : Joint α) :
    j.IsSettled weights thresholds ∨ ∃ fault, j.SettingFault weights thresholds fault := by
  rcases hw : weights.find? j.name defaultWeightKey with _ | w
  · exact Or.inr ⟨_, .noWeight hw⟩
  rcases hle : (Number.int 0).le w with _ | _
  · exact Or.inr ⟨_, .negativeWeight hw hle⟩
  rcases hl : j.limits with _ | limits
  · exact Or.inr ⟨_, .noLimits hw hle hl⟩
  rcases hv : (j.chosenVelocity thresholds limits).le limits.velocity with _ | _
  · exact Or.inr ⟨_, .tooFast hw hle hl hv⟩
  · exact Or.inl ⟨w, limits, hw, hle, hl, hv⟩

/-- Where everything is set nothing is wrong. -/
theorem Joint.IsSettled.not_fault (hs : j.IsSettled weights thresholds) (fault : Fault α) :
    ¬j.SettingFault weights thresholds fault := by
  obtain ⟨w, limits, hw, hle, hl, hv⟩ := hs
  intro h
  cases h with
  | noWeight hw' => exact absurd (hw.symm.trans hw') (by simp)
  | negativeWeight hw' hle' =>
    obtain rfl := Option.some.inj (hw.symm.trans hw')
    exact absurd (hle.symm.trans hle') (by simp)
  | noLimits _ _ hl' => exact absurd (hl.symm.trans hl') (by simp)
  | tooFast _ _ hl' hv' =>
    obtain rfl := Option.some.inj (hl.symm.trans hl')
    exact absurd (hv.symm.trans hv') (by simp)

omit [Scalar α] in
/-- What is looked up among pairs is in one of them. -/
theorem mem_of_lookup_eq_some {κ β : Type} [BEq κ] [LawfulBEq κ] {es : List (κ × β)} {key : κ}
    {x : β} (h : es.lookup key = some x) : (key, x) ∈ es := by
  obtain ⟨before, after, rfl, -⟩ := List.lookup_eq_some_iff.1 h
  exact List.mem_append_right _ List.mem_cons_self

omit [Scalar α] in
/-- A setting that is found was set. -/
theorem Settings.mem_of_find? {settings : Settings α} {name fallback : String} {x : Number α}
    (h : settings.find? name fallback = some x) : ∃ e ∈ settings, e.2 = x := by
  have hmem : ∀ {key}, settings.lookup key = some x → ∃ e ∈ settings, e.2 = x :=
    fun {key} hx => ⟨(key, x), mem_of_lookup_eq_some hx, rfl⟩
  rw [Settings.find?] at h
  rcases hown : settings.lookup name with _ | y
  · rw [hown] at h
    exact hmem h
  · rw [hown] at h
    exact hmem (hown.trans h)

/-- Of numbers with members of `α` the velocity chosen is one. -/
theorem Joint.hasScalar_chosenVelocity (hm : j.IsMeasured)
    (hthr : ∀ e ∈ thresholds, e.2.HasScalar) {limits : Limits α} (hl : j.limits = some limits) :
    (j.chosenVelocity thresholds limits).HasScalar := by
  rw [Joint.chosenVelocity]
  rcases hv : thresholds.find? j.name defaultVelocityKey with _ | v
  · exact hm.velocity limits hl
  · obtain ⟨e, he, rfl⟩ := Settings.mem_of_find? hv
    exact hthr e he

theorem exists_resolveWeight (hwts : ∀ e ∈ weights, e.2.HasScalar) {w : Number α}
    (hw : weights.find? j.name defaultWeightKey = some w) (hle : (Number.int 0).le w = true) :
    ∃ a, resolveWeight j.name weights = .ok a := by
  obtain ⟨e, he, rfl⟩ := Settings.mem_of_find? hw
  obtain ⟨a, ha⟩ := Number.hasScalar_iff.1 (hwts e he)
  exact ⟨a, by simp only [resolveWeight, hw, if_pos hle, ha]⟩

/-- The controllable constraint is made of a weight and a velocity, and of constants that take the
next three numbers, whatever the settings are. -/
theorem controllable_eq_bind (weights thresholds : Settings α) (j : Joint α) (v : Variable)
    (n : Nat) :
    j.controllable v weights thresholds n =
      resolveWeight j.name weights >>= fun w => resolveVelocity j thresholds >>= fun limit =>
        .ok (⟨j.name, v.index, .const n (.real w), .const (n + 1) (.real (-limit)),
          .const (n + 2) (.real limit)⟩, n + 3) := by
  unfold Joint.controllable
  rcases resolveWeight j.name weights with fault | w
  · rfl
  rcases resolveVelocity j thresholds with fault | limit
  · rfl
  · rfl

/-- **The controllable constraint of a joint**: its name, the entry of its variable, and constants
for its weight and for the velocity resolved for it in both directions. -/
theorem controllable_eq_ok {v : Variable} {n m : Nat} {c : Controllable α}
    (h : j.controllable v weights thresholds n = .ok (c, m)) :
    ∃ w limit, resolveWeight j.name weights = .ok w ∧ resolveVelocity j thresholds = .ok limit ∧
      c = ⟨j.name, v.index, .const n (.real w), .const (n + 1) (.real (-limit)),
        .const (n + 2) (.real limit)⟩ ∧ m = n + 3 := by
  rw [controllable_eq_bind] at h
  obtain ⟨w, hw, h⟩ := exists_of_bind_eq_ok h
  obtain ⟨limit, hlimit, h⟩ := exists_of_bind_eq_ok h
  obtain ⟨rfl, rfl⟩ := Prod.mk.inj (Except.ok.inj h)
  exact ⟨w, limit, hw, hlimit, rfl, rfl⟩

/-- **A joint whose weight and velocity are resolved gets its velocity bounded.** -/
theorem exists_controllable {w limit : α} (hw : resolveWeight j.name weights = .ok w)
    (hlimit : resolveVelocity j thresholds = .ok limit) (v : Variable) (n : Nat) :
    ∃ c m, j.controllable v weights thresholds n = .ok (c, m) ∧ c.joint = j.name := by
  rw [controllable_eq_bind, hw, hlimit]
  exact ⟨_, _, rfl, rfl⟩

/-- A joint for which everything is set is such a joint. -/
theorem exists_controllable_of_isSettled (hm : j.IsMeasured) (hwts : ∀ e ∈ weights, e.2.HasScalar)
    (hthr : ∀ e ∈ thresholds, e.2.HasScalar) (hs : j.IsSettled weights thresholds)
    (v : Variable) (n : Nat) :
    ∃ c m, j.controllable v weights thresholds n = .ok (c, m) ∧ c.joint = j.name := by
  obtain ⟨w, limits, hw, hle, hl, hv⟩ := hs
  have hlimit : ∃ a, resolveVelocity j thresholds = .ok a := by
    obtain ⟨a, ha⟩ := Number.hasScalar_iff.1 (Joint.hasScalar_chosenVelocity hm hthr hl)
    rw [Joint.chosenVelocity] at hv ha
    exact ⟨a, by simp only [resolveVelocity, hl, if_pos hv, ha]⟩
  obtain ⟨a, ha⟩ := exists_resolveWeight hwts hw hle
  obtain ⟨b, hb⟩ := hlimit
  exact exists_controllable ha hb v n

/-- **What is wrong with the settings of a joint is reported when its velocity is to be
bounded.** -/
theorem controllable_eq_error (hwts : ∀ e ∈ weights, e.2.HasScalar) {fault : Fault α}
    (hf : j.SettingFault weights thresholds fault) (v : Variable) (n : Nat) :
    j.controllable v weights thresholds n = .error fault := by
  rw [controllable_eq_bind]
  cases hf with
  | noWeight hw =>
    simp only [resolveWeight, hw]
    rfl
  | negativeWeight hw hle =>
    simp only [resolveWeight, hw, hle]
    rfl
  | noLimits hw hle hl =>
    obtain ⟨a, ha⟩ := exists_resolveWeight hwts hw hle
    rw [ha, ok_bind]
    simp only [resolveVelocity, hl]
    rfl
  | tooFast hw hle hl hv =>
    obtain ⟨a, ha⟩ := exists_resolveWeight hwts hw hle
    rw [Joint.chosenVelocity] at hv
    rw [ha, ok_bind]
    simp only [resolveVelocity, hl, hv, Joint.chosenVelocity]
    rfl

omit [Scalar α] in
/-- The hard constraint is made of the limits, and of two nodes for what is left to either. -/
theorem hard_eq (j : Joint α) (v : Variable) (n : Nat) :
    j.hard v n = if j.type.isBounded then
        match j.limits with
        | none => .error (.noLimits j.name)
        | some limits => .ok (some ⟨j.name, .input v,
            .difference (n + 1) (.const n limits.lower) [.input v],
            .difference (n + 3) (.const (n + 2) limits.upper) [.input v]⟩, n + 4)
      else .ok (none, n) := by
  unfold Joint.hard
  split
  · rcases j.limits with _ | limits
    · rfl
    · rfl
  · rfl

omit [Scalar α] in
/-- **A limit less a variable**, as an expression. -/
def ScalarExpr.IsRemaining (limit : Number α) (v : Variable) (e : ScalarExpr α) : Prop :=
  ∃ id id', e = .difference id (.const id' limit) [.input v]

omit [Scalar α] in
/-- **What the hard constraint of a joint speaks of**: the joint, if its motion has an end,
the very variable that it has, and what is left of that to the limits of the joint. -/
theorem hard_eq_ok {v : Variable} {n m : Nat} {b : Option (Hard α)} (h : j.hard v n = .ok (b, m)) :
    b.map (·.joint) = (if j.type.isBounded then some j.name else none) ∧
      ∀ c ∈ b, c.joint = j.name ∧ c.value = .input v ∧ ∃ limits, j.limits = some limits ∧
        c.lower.IsRemaining limits.lower v ∧ c.upper.IsRemaining limits.upper v := by
  rw [hard_eq] at h
  rcases hbounded : j.type.isBounded with _ | _
  · rw [hbounded] at h
    obtain ⟨rfl, -⟩ := Prod.mk.inj (Except.ok.inj h)
    exact ⟨rfl, fun c hc => by cases hc⟩
  · rw [hbounded, if_pos rfl] at h
    rcases hl : j.limits with _ | limits
    · rw [hl] at h
      cases h
    · rw [hl] at h
      obtain ⟨rfl, -⟩ := Prod.mk.inj (Except.ok.inj h)
      refine ⟨rfl, fun c hc => ?_⟩
      obtain rfl := Option.some.inj hc
      exact ⟨rfl, rfl, limits, rfl, ⟨_, _, rfl⟩, ⟨_, _, rfl⟩⟩

omit [Scalar α] in
/-- **A joint with limits gets its position bounded**, or needs no bounds. -/
theorem exists_hard {limits : Limits α} (hl : j.limits = some limits) (v : Variable) (n : Nat) :
    ∃ b m, j.hard v n = .ok (b, m) := by
  rw [hard_eq, hl]
  split
  · exact ⟨_, _, rfl⟩
  · exact ⟨_, _, rfl⟩

end Settings

end Linkage
