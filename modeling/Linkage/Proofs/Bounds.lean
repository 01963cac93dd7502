import Linkage.Proofs.Building
import Linkage.Proofs.Negation

/-!
# How fast a joint may be driven

A controllable constraint bounds the velocity of a joint on both sides, by a velocity `x` and
its opposite. The velocity is chosen among three: the one set for the joint, the one set for
all joints, and the physical limit of the joint. Whichever it is, it is compared with the
physical limit, and what does not compare, such as what is not a number, is refused. So the
upper bound never exceeds the limit, and the lower bound does not exceed it in the other
direction, as going over to opposites turns a comparison round.

The comparison is made on that one side only. A velocity below zero passes it however fast it
is, and then the two bounds have changed places: the lower one is above zero, the upper one
below, and no velocity is between them. Nor need either of them be one that the joint can do.
So the bounds are in order, and within the limit, exactly for the velocities that are not
below zero.

* `Linkage.Joint.controllable_bounds` – the bounds of a joint, and when they are in order;
* `Linkage.Joint.not_controllable_within` – a joint whose bounds are not.
-/

namespace Linkage

section Chosen

variable {α : Type} [Scalar α] {j : Joint α} {thresholds : Settings α}

/-- **The velocity that is resolved** is the one chosen, if it is within the limit. -/
theorem le_of_resolveVelocity {limits : Limits α} (hl : j.limits = some limits) {x : α}
    (h : resolveVelocity j thresholds = .ok x) :
    (j.chosenVelocity thresholds limits).le limits.velocity = true ∧
      (j.chosenVelocity thresholds limits).toScalar = .ok x := by
  rw [resolveVelocity, hl] at h
  change (if (j.chosenVelocity thresholds limits).le limits.velocity = true then
    (j.chosenVelocity thresholds limits).toScalar else _) = _ at h
  split at h
  · rename_i hle
    exact ⟨hle, h⟩
  · cases h

omit [Scalar α] in
/-- Where the limit and all that is set are members of `α`, the velocity chosen is one. -/
theorem Joint.exists_chosenVelocity_eq_real {limits : Limits α} {physical : α}
    (hp : limits.velocity = .real physical) (ht : ∀ e ∈ thresholds, ∃ x, e.2 = .real x) :
    ∃ x, j.chosenVelocity thresholds limits = .real x := by
  rw [chosenVelocity]
  rcases hv : thresholds.find? j.name defaultVelocityKey with _ | y
  · exact ⟨physical, hp⟩
  · obtain ⟨e, he, rfl⟩ := Settings.mem_of_find? hv
    exact ht e he

end Chosen

namespace Joint

/-- **The bounds of a joint** are the velocity chosen for it and its opposite. Neither exceeds
the physical limit in its direction, and they are in order exactly if the velocity chosen is
not below zero. -/
theorem controllable_bounds {j : Joint Float} {v : Variable} {weights thresholds : Settings Float}
    {n m : Nat} {c : Controllable Float}
    (h : j.controllable v weights thresholds n = .ok (c, m)) {limits : Limits Float}
    (hl : j.limits = some limits) {physical : Float} (hp : limits.velocity = .real physical)
    (ht : ∀ e ∈ thresholds, ∃ x, e.2 = .real x) :
    ∃ x, j.chosenVelocity thresholds limits = .real x ∧
      (∀ q, c.lower.evaluate q = .ok (-x) ∧ c.upper.evaluate q = .ok x) ∧
      -physical ≤ -x ∧ x ≤ physical ∧
      (-physical ≤ -x ∧ -x ≤ x ∧ x ≤ physical ↔ 0 ≤ x) := by
  obtain ⟨_, x, -, hx, rfl, -⟩ := controllable_eq_ok h
  obtain ⟨hle, hscalar⟩ := le_of_resolveVelocity hl hx
  obtain ⟨y, hy⟩ := exists_chosenVelocity_eq_real (j := j) hp ht
  obtain rfl : y = x := by
    rw [hy] at hscalar
    exact Except.ok.inj hscalar
  have hupper : y ≤ physical := by
    rw [hy, hp] at hle
    exact of_decide_eq_true hle
  -- The upper bound is the one that was compared with the limit.
  have hlower : -physical ≤ -y := neg_le_neg_iff.2 hupper
  refine ⟨y, hy, fun q => ⟨rfl, rfl⟩, hlower, hupper, ?_⟩
  rw [← neg_le_self_iff]
  constructor
  · rintro ⟨-, horder, -⟩
    exact horder
  · intro horder
    exact ⟨hlower, horder, hupper⟩

/-- An elbow that turns at no more than two radians in a second. -/
def elbow : Joint Float :=
  ⟨"elbow", .revolute, "upper", "lower", .rest, defaultAxis,
    some ⟨.real (-1), .real 1, .real 2, .real 1⟩⟩

/-- **Set to one and a half**, the elbow is bounded by that on both sides. -/
theorem controllable_bounds_elbow :
    ∃ c m, elbow.controllable ⟨0, 0, "elbow"⟩ [(defaultWeightKey, .real 1)]
        [("elbow", .real 1.5)] 1 = .ok (c, m) ∧
      ∃ x, c.lower.evaluate [] = .ok (-x) ∧ c.upper.evaluate [] = .ok x ∧
        -2 ≤ -x ∧ -x ≤ x ∧ x ≤ 2 := by
  have hreal : ∀ e ∈ [("elbow", Number.real (1.5 : Float))], ∃ x, e.2 = .real x :=
    List.forall_mem_singleton.2 ⟨1.5, rfl⟩
  have hok : elbow.controllable ⟨0, 0, "elbow"⟩ [(defaultWeightKey, .real 1)]
      [("elbow", .real 1.5)] 1 = .ok (⟨"elbow", 0, .const 1 (.real 1), .const 2 (.real (-1.5)),
        .const 3 (.real 1.5)⟩, 4) := rfl
  obtain ⟨x, hx, hbounds, -, -, hiff⟩ := controllable_bounds hok rfl rfl hreal
  have hx : 1.5 = x := Number.real.inj hx
  obtain ⟨hlower, horder, hupper⟩ := hiff.2 (by rw [← hx]; decide)
  exact ⟨_, _, hok, x, (hbounds []).1, (hbounds []).2, hlower, horder, hupper⟩

/-- **Set to a velocity below zero**, the elbow is given bounds that are out of order, and
beyond what it can do: from three to minus three. -/
theorem not_controllable_within :
    ¬∀ (j : Joint Float) (v : Variable) (weights thresholds : Settings Float)
      (limits : Limits Float) (physical : Float) (n m : Nat) (c : Controllable Float)
      (q : List Float) (lower upper : Float),
      j.limits = some limits → limits.velocity = .real physical →
      j.controllable v weights thresholds n = .ok (c, m) →
      c.lower.evaluate q = .ok lower → c.upper.evaluate q = .ok upper →
      -physical ≤ lower ∧ lower ≤ upper ∧ upper ≤ physical := by
  intro h
  obtain ⟨-, horder, -⟩ := h elbow ⟨0, 0, "elbow"⟩ [(defaultWeightKey, .real 1)]
    [("elbow", .real (-3))] _ 2 1 4 _ [] 3 (-3) rfl rfl rfl rfl rfl
  exact absurd horder (by decide)

end Joint

end Linkage
