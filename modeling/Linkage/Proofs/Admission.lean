import Linkage.Proofs.Bounds
import Linkage.Proofs.Directions
import Linkage.Proofs.FloatAmount

/-!
# Which joints are admitted

Before the velocity of a joint is bounded, four things are asked in turn: whether a weight is
set, whether it is at least zero, whether the joint has limits, and whether the velocity chosen
for it is within the physical one. The first answer of no is what is reported. Each question
is asked so that it is answered with no where a number is none, be it a weight, a velocity or
the physical limit itself; so what is not a number never gets into a constraint.

* `Linkage.Joint.Admits`, `Linkage.Joint.Rejects` – the answers;
* `Linkage.Joint.controllable_outcome` – they decide what comes of a joint.
-/

namespace Linkage

/-! ### Numbers that compare -/

/-- What compares is a number. -/
theorem isNaN_eq_false_of_le {x y : Float} (h : x ≤ y) : x.isNaN = false ∧ y.isNaN = false := by
  rw [le_iff_compare, compare_eq_bind_amount] at h
  constructor
  · rw [Bool.eq_false_iff]
    intro hx
    simp [isNaN_iff.1 hx, amount] at h
  · rw [Bool.eq_false_iff]
    intro hy
    simp [isNaN_iff.1 hy, amount] at h

/-- The opposite of a number is one. -/
theorem isNaN_neg (x : Float) : (-x).isNaN = x.isNaN := by
  change (-x).toModel.unpack.isNaN = x.toModel.unpack.isNaN
  rw [unpack_neg]
  cases x.toModel.unpack <;> rfl

/-- The integer zero compares as the number zero. -/
theorem zero_le_real_iff (x : Float) : (Number.int 0).le (.real x) = true ↔ 0 ≤ x :=
  (le_iff_intLe (y := 0) rfl x).symm

namespace Joint

variable {weights thresholds : Settings Float} {j : Joint Float}

/-- **A joint that is admitted**, with a weight and a velocity: they are the ones set for it, or
for all joints, or what the joint can do; the weight is at least zero, and the velocity within
the physical limit. -/
structure Admits (weights thresholds : Settings Float) (j : Joint Float) (w x : Float) : Prop where
  weight : weights.find? j.name defaultWeightKey = some (.real w)
  nonneg : 0 ≤ w
  velocity : ∃ limits physical, j.limits = some limits ∧ limits.velocity = .real physical ∧
    j.chosenVelocity thresholds limits = .real x ∧ x ≤ physical

/-- **A joint that is not**, and the class of what is reported: the first thing of four. -/
inductive Rejects (weights thresholds : Settings Float) (j : Joint Float) : Fault.Kind → Prop
  /-- There is no weight. -/
  | missing (hw : weights.find? j.name defaultWeightKey = none) :
    Rejects weights thresholds j .missing
  /-- There is one, but it is not at least zero. -/
  | invalid {w : Float} (hw : weights.find? j.name defaultWeightKey = some (.real w))
      (hneg : ¬0 ≤ w) : Rejects weights thresholds j .invalid
  /-- It is, but the joint has no limits. -/
  | integrity {w : Float} (hw : weights.find? j.name defaultWeightKey = some (.real w))
      (hnonneg : 0 ≤ w) (hl : j.limits = none) : Rejects weights thresholds j .integrity
  /-- It has, but the velocity chosen is not within the physical one. -/
  | safety {w x physical : Float} {limits : Limits Float}
      (hw : weights.find? j.name defaultWeightKey = some (.real w)) (hnonneg : 0 ≤ w)
      (hl : j.limits = some limits) (hp : limits.velocity = .real physical)
      (hx : j.chosenVelocity thresholds limits = .real x) (hfast : ¬x ≤ physical) :
    Rejects weights thresholds j .safety

/-- **A joint that is admitted is bounded**, by the velocity and its opposite. -/
theorem Admits.controllable_eq {w x : Float} (h : j.Admits weights thresholds w x) (v : Variable)
    (n : Nat) :
    j.controllable v weights thresholds n =
      .ok (⟨j.name, v.index, .const n (.real w), .const (n + 1) (.real (-x)),
        .const (n + 2) (.real x)⟩, n + 3) := by
  obtain ⟨limits, physical, hl, hp, hx, hle⟩ := h.velocity
  have hw : resolveWeight j.name weights = .ok w := by
    simp only [resolveWeight, h.weight, if_pos ((zero_le_real_iff w).2 h.nonneg)]
    rfl
  have hv : resolveVelocity j thresholds = .ok x := by
    have hle' : (Number.real x).le limits.velocity = true := by
      rw [hp]
      exact decide_eq_true hle
    rw [← hx, chosenVelocity] at hle'
    simp only [resolveVelocity, hl, if_pos hle']
    rw [chosenVelocity] at hx
    rw [hx]
    rfl
  rw [controllable_eq_bind, hw, hv]
  rfl

/-- Of settings that are binary64 numbers, the faults are the rejections. -/
theorem rejects_iff (hweights : ∀ e ∈ weights, ∃ x, e.2 = .real x)
    (hthresholds : ∀ e ∈ thresholds, ∃ x, e.2 = .real x)
    (hlimits : ∀ limits, j.limits = some limits → ∃ x, limits.velocity = .real x)
    {kind : Fault.Kind} :
    j.Rejects weights thresholds kind ↔
      ∃ fault, j.SettingFault weights thresholds fault ∧ fault.kind = kind := by
  have hreal : ∀ {w}, weights.find? j.name defaultWeightKey = some w → ∃ x, w = .real x := by
    intro w hw
    obtain ⟨e, he, rfl⟩ := Settings.mem_of_find? hw
    exact hweights e he
  have hnonneg : ∀ {x : Float}, ¬0 ≤ x ↔ (Number.int 0).le (.real x) = false := fun {x} => by
    rw [← zero_le_real_iff, Bool.not_eq_true]
  constructor
  · rintro (hw | ⟨hw, hneg⟩ | ⟨hw, hle, hl⟩ | ⟨hw, hle, hl, hp, hx, hfast⟩)
    · exact ⟨_, .noWeight hw, rfl⟩
    · exact ⟨_, .negativeWeight hw (hnonneg.1 hneg), rfl⟩
    · exact ⟨_, .noLimits hw ((zero_le_real_iff _).2 hle) hl, rfl⟩
    · refine ⟨_, .tooFast hw ((zero_le_real_iff _).2 hle) hl ?_, rfl⟩
      rw [hx, hp]
      exact decide_eq_false hfast
  · rintro ⟨fault, hfault, rfl⟩
    cases hfault with
    | noWeight hw => exact .missing hw
    | negativeWeight hw hle =>
      obtain ⟨x, rfl⟩ := hreal hw
      exact .invalid hw (hnonneg.2 hle)
    | noLimits hw hle hl =>
      obtain ⟨x, rfl⟩ := hreal hw
      exact .integrity hw ((zero_le_real_iff _).1 hle) hl
    | tooFast hw hle hl hv =>
      obtain ⟨w, rfl⟩ := hreal hw
      obtain ⟨physical, hp⟩ := hlimits _ hl
      obtain ⟨x, hx⟩ := exists_chosenVelocity_eq_real hp hthresholds
      rw [hx, hp] at hv
      exact .safety hw ((zero_le_real_iff _).1 hle) hl hp hx (of_decide_eq_false hv)

/-- A joint is admitted, or something is wrong with it. -/
theorem admits_or_fault (hweights : ∀ e ∈ weights, ∃ x, e.2 = .real x)
    (hthresholds : ∀ e ∈ thresholds, ∃ x, e.2 = .real x)
    (hlimits : ∀ limits, j.limits = some limits → ∃ x, limits.velocity = .real x) :
    (∃ w x, j.Admits weights thresholds w x) ∨
      ∃ fault, j.SettingFault weights thresholds fault := by
  rcases settled_or_fault weights thresholds j with ⟨w, limits, hw, hle, hl, hv⟩ | hfault
  · obtain ⟨e, he, rfl⟩ := Settings.mem_of_find? hw
    obtain ⟨w, hreal⟩ := hweights e he
    obtain ⟨physical, hp⟩ := hlimits limits hl
    obtain ⟨x, hx⟩ := exists_chosenVelocity_eq_real hp hthresholds
    rw [hreal] at hw hle
    rw [hx, hp] at hv
    exact Or.inl ⟨w, x, hw, (zero_le_real_iff w).1 hle, limits, physical, hl, hp, hx,
      of_decide_eq_true hv⟩
  · exact Or.inr hfault

/-- **What comes of a joint**, where the settings and the physical limit are binary64 numbers of
any sort. It is admitted exactly with the weight and the velocity set for it, and bounded by
these; otherwise the first thing that is wrong is reported. So no weight is below zero, no
bound above the physical limit, and neither is ever what is not a number. -/
theorem controllable_outcome (hweights : ∀ e ∈ weights, ∃ x, e.2 = .real x)
    (hthresholds : ∀ e ∈ thresholds, ∃ x, e.2 = .real x)
    (hlimits : ∀ limits, j.limits = some limits → ∃ x, limits.velocity = .real x)
    (v : Variable) (n : Nat) :
    (∀ c m, j.controllable v weights thresholds n = .ok (c, m) ↔
      ∃ w x, j.Admits weights thresholds w x ∧ m = n + 3 ∧
        c = ⟨j.name, v.index, .const n (.real w), .const (n + 1) (.real (-x)),
          .const (n + 2) (.real x)⟩) ∧
    (∀ kind, (∃ fault, j.controllable v weights thresholds n = .error fault ∧
      fault.kind = kind) ↔ j.Rejects weights thresholds kind) ∧
    ∀ c m, j.controllable v weights thresholds n = .ok (c, m) →
      ∃ w lower upper, (∀ q, c.weight.evaluate q = .ok w ∧ c.lower.evaluate q = .ok lower ∧
          c.upper.evaluate q = .ok upper) ∧
        w.isNaN = false ∧ 0 ≤ w ∧ lower.isNaN = false ∧ upper.isNaN = false ∧
        ∃ limits physical, j.limits = some limits ∧ limits.velocity = .real physical ∧
          upper ≤ physical := by
  have hscalar : ∀ e ∈ weights, e.2.HasScalar := by
    intro e he
    obtain ⟨x, hx⟩ := hweights e he
    rw [hx]
    exact Number.hasScalar_real x
  have hok : ∀ c m, j.controllable v weights thresholds n = .ok (c, m) ↔
      ∃ w x, j.Admits weights thresholds w x ∧ m = n + 3 ∧
        c = ⟨j.name, v.index, .const n (.real w), .const (n + 1) (.real (-x)),
          .const (n + 2) (.real x)⟩ := by
    intro c m
    constructor
    · intro h
      rcases admits_or_fault hweights hthresholds hlimits with ⟨w, x, hadmits⟩ | ⟨fault, hfault⟩
      · rw [hadmits.controllable_eq v n] at h
        obtain ⟨rfl, rfl⟩ := Prod.mk.inj (Except.ok.inj h)
        exact ⟨w, x, hadmits, rfl, rfl⟩
      · rw [controllable_eq_error hscalar hfault v n] at h
        cases h
    · rintro ⟨w, x, hadmits, rfl, rfl⟩
      exact hadmits.controllable_eq v n
  refine ⟨hok, fun kind => ?_, fun c m h => ?_⟩
  · rw [rejects_iff hweights hthresholds hlimits]
    constructor
    · rintro ⟨fault, h, rfl⟩
      rcases admits_or_fault hweights hthresholds hlimits with ⟨w, x, hadmits⟩ | ⟨fault', hfault⟩
      · rw [hadmits.controllable_eq v n] at h
        cases h
      · rw [controllable_eq_error hscalar hfault v n] at h
        exact ⟨fault', hfault, by rw [Except.error.inj h]⟩
    · rintro ⟨fault, hfault, rfl⟩
      exact ⟨fault, controllable_eq_error hscalar hfault v n, rfl⟩
  · obtain ⟨w, x, hadmits, -, rfl⟩ := (hok c m).1 h
    obtain ⟨limits, physical, hl, hp, -, hle⟩ := hadmits.velocity
    have hx := (isNaN_eq_false_of_le hle).1
    exact ⟨w, -x, x, fun q => ⟨rfl, rfl, rfl⟩, (isNaN_eq_false_of_le hadmits.nonneg).2,
      hadmits.nonneg, (isNaN_neg x).trans hx, hx, limits, physical, hl, hp, hle⟩

/-- **Set to what is not a number**, the velocity of the elbow is refused, although its weight
will do; set to one and a half, it is admitted with that. -/
theorem controllable_outcome_elbow :
    (∃ fault, elbow.controllable ⟨0, 0, "elbow"⟩ [(defaultWeightKey, .real 1)]
      [("elbow", .real (0 / 0))] 1 = .error fault ∧ fault.kind = .safety) ∧
    ∃ c m, elbow.controllable ⟨0, 0, "elbow"⟩ [(defaultWeightKey, .real 1)]
      [("elbow", .real 1.5)] 1 = .ok (c, m) := by
  have hreal : ∀ {name : String} {y : Float}, ∀ e ∈ [(name, Number.real y)], ∃ x, e.2 = .real x :=
    fun {_ y} => List.forall_mem_singleton.2 ⟨y, rfl⟩
  have hlimits : ∀ limits, elbow.limits = some limits → ∃ x, limits.velocity = .real x := by
    intro limits h
    exact ⟨2, by rw [← Option.some.inj h]⟩
  have hnan := @controllable_outcome [(defaultWeightKey, .real 1)] [("elbow", .real (0 / 0))] elbow
    hreal hreal hlimits ⟨0, 0, "elbow"⟩ 1
  have hset := @controllable_outcome [(defaultWeightKey, .real 1)] [("elbow", .real 1.5)] elbow
    hreal hreal hlimits ⟨0, 0, "elbow"⟩ 1
  constructor
  · exact (hnan.2.1 .safety).2 (.safety rfl (by decide) rfl rfl rfl (by decide))
  · have hadmits : elbow.Admits [(defaultWeightKey, .real 1)] [("elbow", .real 1.5)] 1 1.5 :=
      ⟨rfl, by decide, _, _, rfl, rfl, rfl, by decide⟩
    exact ⟨_, _, (hset.1 _ _).2 ⟨1, 1.5, hadmits, rfl, rfl⟩⟩

end Joint

end Linkage
