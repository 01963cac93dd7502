import Linkage.Proofs.Conversion
import Linkage.Proofs.UnrelatedJoints

/-!
# Settings that can be exchanged

A number may be set as an integer or as the member of `α` that the integer becomes. Whether it
is converted early or late makes no difference as long as the two match
(`Linkage.Number.Matches`): nothing that either is compared with tells them apart, and where
arithmetic needs a number, both become the same. An integer that is a binary64 number matches
the number it is converted to (`Linkage.IsRepresentable.exists_matches`).

With settings that match, robots are made in step. The two are the same but for their settings
(`Linkage.Robot.Twins`), and whatever is done to both either succeeds for both, and leaves them
the same, or fails for both at the same moment. The failures may show different numbers, one an
integer and the other not, but their causes are of one class. That two outcomes are related in
this way (`Linkage.InStep`) carries over from the parts of a sequence to the whole.

* `Linkage.resolveWeight_inStep`, `Linkage.resolveVelocity_inStep` – where settings are read;
* `Linkage.Robot.compile_inStep` – what comes of a list of requests.
-/

namespace Linkage

/-! ### Outcomes in step -/

/-- **Outcomes in step**: both succeed, and what they give is related by `R`, or both fail, and
what they report is related by `E`. -/
inductive InStep {ε β γ : Type} (E : ε → ε → Prop) (R : β → γ → Prop) :
    Except ε β → Except ε γ → Prop
  | ok {x : β} {y : γ} (h : R x y) : InStep E R (.ok x) (.ok y)
  | error {e e' : ε} (h : E e e') : InStep E R (.error e) (.error e')

section InStep

variable {ε β γ β' γ' : Type} {E : ε → ε → Prop} {R : β → γ → Prop} {S : β' → γ' → Prop}

/-- Whatever is reported is in step with itself. -/
theorem inStep_self (hE : ∀ e, E e e) (x : Except ε β) : InStep E Eq x x := by
  cases x with
  | ok x => exact .ok rfl
  | error e => exact .error (hE e)

/-- Both fail, or both succeed. -/
theorem InStep.fail_or_succeed {x : Except ε β} {y : Except ε γ} (h : InStep E R x y) :
    (∃ e e', x = .error e ∧ y = .error e' ∧ E e e') ∨ ∃ a b, x = .ok a ∧ y = .ok b ∧ R a b := by
  cases h with
  | ok h => exact Or.inr ⟨_, _, rfl, rfl, h⟩
  | error h => exact Or.inl ⟨_, _, rfl, rfl, h⟩

/-- **A sequence is in step** if what comes first is, and so is whatever comes after it. -/
theorem InStep.bind {x : Except ε β} {y : Except ε γ} {f : β → Except ε β'} {g : γ → Except ε γ'}
    (h : InStep E R x y) (hfg : ∀ a b, R a b → InStep E S (f a) (g b)) :
    InStep E S (x >>= f) (y >>= g) := by
  cases h with
  | ok h => exact hfg _ _ h
  | error h => exact .error h

theorem InStep.map {x : Except ε β} {y : Except ε γ} {f : β → β'} {g : γ → γ'}
    (h : InStep E R x y) (hfg : ∀ a b, R a b → S (f a) (g b)) :
    InStep E S (x.map f) (y.map g) := by
  cases h with
  | ok h => exact .ok (hfg _ _ h)
  | error h => exact .error h

end InStep

/-! ### Numbers that match -/

section Numbers

variable {α : Type} [Scalar α]

/-- **Numbers that match**: they stand for the same member of `α`, and compare alike with every
number. -/
structure Number.Matches (x y : Number α) : Prop where
  toScalar? : y.toScalar? = x.toScalar?
  le (z : Number α) : y.le z = x.le z
  ge (z : Number α) : z.le y = z.le x

theorem Number.Matches.refl (x : Number α) : x.Matches x := ⟨rfl, fun _ => rfl, fun _ => rfl⟩

theorem Number.Matches.toScalar {x y : Number α} (h : x.Matches y) : y.toScalar = x.toScalar := by
  rw [Number.toScalar, Number.toScalar, h.toScalar?]

/-- **Settings that match**: under every name there are numbers that match, or none. -/
def Settings.Matches (settings settings' : Settings α) : Prop :=
  ∀ name, Option.Rel Number.Matches (settings.lookup name) (settings'.lookup name)

theorem Settings.Matches.refl (settings : Settings α) : settings.Matches settings := by
  intro name
  rcases settings.lookup name with _ | x
  · exact .none
  · exact .some (.refl x)

/-- What is related is so with the values that stand in for what is not there. -/
theorem rel_getD {β γ : Type} {R : β → γ → Prop} {x : Option β} {y : Option γ}
    (h : Option.Rel R x y) {a : β} {b : γ} (hab : R a b) : R (x.getD a) (y.getD b) := by
  cases h with
  | none => exact hab
  | some h => exact h

/-- What is set for a joint or for all joints matches then. -/
theorem Settings.Matches.find? {settings settings' : Settings α} (h : settings.Matches settings')
    (joint fallback : String) :
    Option.Rel Number.Matches (settings.find? joint fallback) (settings'.find? joint fallback) := by
  rw [Settings.find?, Settings.find?]
  have hown := h joint
  rcases hx : settings.lookup joint with _ | x <;> rcases hy : settings'.lookup joint with _ | y <;>
    rw [hx, hy] at hown
  · exact h fallback
  · cases hown
  · cases hown
  · exact hown

end Numbers

/-- **An integer that is a number** matches the number it is converted to. -/
theorem IsRepresentable.exists_matches {n : ℤ} (h : IsRepresentable n) :
    ∃ x : Float, Scalar.ofInt? n = some x ∧ (Number.int n).Matches (.real x) := by
  obtain ⟨x, hx, heq⟩ := h.exists_ofInt?
  refine ⟨x, hx, hx.symm, fun z => ?_, fun z => ?_⟩
  · cases z with
    | int m => exact Bool.eq_iff_iff.2 ((leInt_iff_le heq m).trans decide_eq_true_iff.symm)
    | real y => exact Bool.eq_iff_iff.2 (decide_eq_true_iff.trans (le_iff_intLe heq y))
  · cases z with
    | int m => exact Bool.eq_iff_iff.2 ((intLe_iff_le heq m).trans decide_eq_true_iff.symm)
    | real y => exact Bool.eq_iff_iff.2 (decide_eq_true_iff.trans (le_iff_leInt heq y))

/-! ### Where settings are read -/

section Settings

variable {α : Type}

/-- **Causes of one class.** -/
def Fault.SameKind (fault fault' : Fault α) : Prop := fault'.kind = fault.kind

theorem Fault.SameKind.refl (fault : Fault α) : fault.SameKind fault := rfl

variable [Scalar α] {weights weights' thresholds thresholds' : Settings α}

theorem Number.Matches.inStep {x y : Number α} (h : x.Matches y) :
    InStep Fault.SameKind Eq x.toScalar y.toScalar := by
  rw [h.toScalar]
  exact inStep_self Fault.SameKind.refl _

/-- **The weight of a joint** is the same, or will do in neither case. -/
theorem resolveWeight_inStep (h : weights.Matches weights') (joint : String) :
    InStep Fault.SameKind Eq (resolveWeight joint weights) (resolveWeight joint weights') := by
  rw [resolveWeight, resolveWeight]
  have hfound := h.find? joint defaultWeightKey
  revert hfound
  generalize weights.find? joint defaultWeightKey = found
  generalize weights'.find? joint defaultWeightKey = found'
  rintro (hw | _)
  · simp only [hw.ge]
    split
    · exact hw.inStep
    · exact .error rfl
  · exact .error rfl

/-- **So is its velocity limit**, whether one is set or its physical limit is taken. -/
theorem resolveVelocity_inStep (h : thresholds.Matches thresholds') (j : Joint α) :
    InStep Fault.SameKind Eq (resolveVelocity j thresholds) (resolveVelocity j thresholds') := by
  rw [resolveVelocity, resolveVelocity]
  rcases j.limits with _ | limits
  · exact .error rfl
  · have hchosen : Number.Matches
        ((thresholds.find? j.name defaultVelocityKey).getD limits.velocity)
        ((thresholds'.find? j.name defaultVelocityKey).getD limits.velocity) :=
      rel_getD (h.find? j.name defaultVelocityKey) (.refl limits.velocity)
    simp only [hchosen.le]
    split
    · exact hchosen.inStep
    · exact .error rfl

/-- **And so is the controllable constraint.** -/
theorem controllable_inStep (hweights : weights.Matches weights')
    (hthresholds : thresholds.Matches thresholds') (j : Joint α) (v : Variable) (n : Nat) :
    InStep Fault.SameKind Eq (j.controllable v weights thresholds n)
      (j.controllable v weights' thresholds' n) := by
  rw [controllable_eq_bind, controllable_eq_bind]
  refine (resolveWeight_inStep hweights j.name).bind ?_
  rintro w _ rfl
  refine (resolveVelocity_inStep hthresholds j).bind ?_
  rintro limit _ rfl
  exact .ok rfl

end Settings

/-! ### Robots made in step -/

variable {α : Type}

/-- **Failures at the same moment** with causes of one class. -/
structure Failure.SameKind (failure failure' : Failure α) : Prop where
  kind : failure.fault.SameKind failure'.fault
  log : failure'.log = failure.log

theorem Failure.SameKind.refl (failure : Failure α) : failure.SameKind failure := ⟨rfl, rfl⟩

namespace Robot

variable {β γ : Type}

theorem attempt_inStep {R : β → γ → Prop} {r r' : Robot α} {x : Except (Fault α) β}
    {y : Except (Fault α) γ} (hlog : r'.log = r.log) (h : InStep Fault.SameKind R x y) :
    InStep Failure.SameKind R (r.attempt x) (r'.attempt y) := by
  cases h with
  | ok h => exact .ok h
  | error h => exact .error ⟨h, hlog⟩

variable [Scalar α]

/-- **Robots that are the same but for their settings**, and these match. -/
def Twins (r r' : Robot α) : Prop :=
  ∃ weights thresholds, r.weights.Matches weights ∧ r.thresholds.Matches thresholds ∧
    r' = { r with weights, thresholds }

variable {r r' : Robot α}

/-- What asks for nothing of the settings comes out the same for both. -/
theorem Twins.attempt (h : Twins r r') (x : Except (Fault α) β) :
    InStep Failure.SameKind Eq (r.attempt x) (r'.attempt x) := by
  obtain ⟨weights, thresholds, -, -, rfl⟩ := h
  exact attempt_inStep rfl (inStep_self Fault.SameKind.refl x)

/-- The same built for both. -/
inductive BuiltAlike : β × Robot α → β × Robot α → Prop
  | mk (x : β) {r r' : Robot α} (h : Twins r r') : BuiltAlike (x, r) (x, r')

/-- What is built in step for both leaves them the same. -/
theorem Twins.build (h : Twins r r') {b b' : Builder α β}
    (hb : ∀ n, InStep Fault.SameKind Eq (b n) (b' n)) :
    InStep Failure.SameKind BuiltAlike (r.build b) (r'.build b') := by
  obtain ⟨weights, thresholds, hweights, hthresholds, rfl⟩ := h
  refine (attempt_inStep rfl (hb r.nextId)).map ?_
  rintro ⟨x, n⟩ _ rfl
  exact .mk x ⟨weights, thresholds, hweights, hthresholds, rfl⟩

/-- Inputs are handed out alike, -/
theorem Twins.assignAll (h : Twins r r') (names : List String) :
    Twins (r.assignAll names) (r'.assignAll names) := by
  obtain ⟨weights, thresholds, hweights, hthresholds, rfl⟩ := h
  obtain ⟨vs, n, log, hassign, -, -⟩ := r.assignAll_eq names
  obtain ⟨vs', n', log', hassign', -, -⟩ := assignAll_eq { r with weights, thresholds } names
  obtain ⟨hvs, hlog, hn⟩ := @assignAll_congr α r { r with weights, thresholds } rfl rfl rfl names
  rw [hassign, hassign'] at hvs hlog hn
  rw [hassign, hassign']
  obtain rfl : vs' = vs := hvs
  obtain rfl : log' = log := hlog
  obtain rfl : n' = n := hn
  exact ⟨weights, thresholds, hweights, hthresholds, rfl⟩

/-- and the same is written. -/
theorem Twins.write (h : Twins r r') (line : LogLine) : Twins (r.write line) (r'.write line) := by
  obtain ⟨weights, thresholds, hweights, hthresholds, rfl⟩ := h
  exact ⟨weights, thresholds, hweights, hthresholds, rfl⟩

/-- **The constraints of one joint.** This is where the settings are read. -/
theorem Twins.constrain (h : Twins r r') (name : String) :
    InStep Failure.SameKind Twins (r.constrain name) (r'.constrain name) := by
  obtain ⟨weights, thresholds, hweights, hthresholds, rfl⟩ := id h
  rw [Robot.constrain, Robot.constrain]
  change InStep _ _ _ (if r.isConstrained name then _ else _)
  split
  · exact .ok h
  refine (h.attempt _).bind ?_
  rintro j _ rfl
  refine (h.attempt _).bind ?_
  rintro v _ rfl
  refine (h.build (controllable_inStep hweights hthresholds j v)).bind ?_
  rintro _ _ ⟨c, h₁⟩
  refine (h₁.build fun n => inStep_self Fault.SameKind.refl _).bind ?_
  rintro _ _ ⟨b, weights₂, thresholds₂, hweights₂, hthresholds₂, rfl⟩
  exact .ok ⟨weights₂, thresholds₂, hweights₂, hthresholds₂, rfl⟩

theorem Twins.constrainAll (h : Twins r r') (names : List String) :
    InStep Failure.SameKind Twins (r.constrainAll names) (r'.constrainAll names) := by
  induction names generalizing r r' with
  | nil => exact .ok h
  | cons name names ih => exact (h.constrain name).bind fun _ _ h₁ => ih h₁

/-- What is done for a chain once its joints have inputs. -/
theorem Twins.equip (h : Twins r r') (key : ChainKey) (moving all : List String) :
    InStep Failure.SameKind Twins (r.equip key moving all) (r'.equip key moving all) := by
  obtain ⟨weights, thresholds, -, -, rfl⟩ := id h
  refine (h.build fun n => inStep_self Fault.SameKind.refl _).bind ?_
  rintro _ _ @⟨⟨f, frames⟩, r₁, _, weights₁, thresholds₁, hweights₁, hthresholds₁, rfl⟩
  have hbuilt : Twins { r₁ with frames, chains := r₁.chains ++ [key] }
      { r₁ with
        frames, chains := r₁.chains ++ [key], weights := weights₁, thresholds := thresholds₁ } :=
    ⟨weights₁, thresholds₁, hweights₁, hthresholds₁, rfl⟩
  exact (hbuilt.constrainAll moving).bind fun _ _ h₂ => .ok (h₂.write _)

/-- **One chain more.** -/
theorem Twins.addChain (h : Twins r r') (key : ChainKey) :
    InStep Failure.SameKind Twins (r.addChain key) (r'.addChain key) := by
  obtain ⟨weights, thresholds, hweights, hthresholds, rfl⟩ := id h
  rw [Robot.addChain, Robot.addChain]
  change InStep _ _ _ (if r.frames.contains key then _ else _)
  split
  · exact .ok (h.write _)
  refine (h.attempt _).bind ?_
  rintro moving _ rfl
  refine (h.attempt _).bind ?_
  rintro all _ rfl
  exact (h.assignAll moving).equip key moving all

/-- All chains that are asked for. -/
theorem Twins.addChains (h : Twins r r') (requests : List ChainRequest) :
    InStep Failure.SameKind Twins (r.addChains requests) (r'.addChains requests) := by
  induction requests generalizing r r' with
  | nil => exact .ok h
  | cons q requests ih =>
    obtain ⟨weights, thresholds, hweights, hthresholds, rfl⟩ := id h
    refine (h.attempt (q.key r.root)).bind ?_
    rintro key _ rfl
    exact (h.addChain key).bind fun _ _ h₁ => ih h₁

/-- **With settings that match** a list of requests comes to the same robot, but for the settings,
or fails at the same moment with causes of one class. -/
theorem compile_inStep {weights weights' thresholds thresholds' : Settings α}
    (hweights : weights.Matches weights') (hthresholds : thresholds.Matches thresholds')
    (tree : Tree α) (root : String) (requests : Except (Fault α) (List ChainRequest)) :
    InStep Failure.SameKind Twins (compile tree root requests weights thresholds)
      (compile tree root requests weights' thresholds') := by
  rw [compile, compile]
  rcases tree.parentLinks with fault | above
  · exact .error (.refl _)
  rcases requests with fault | requests
  · exact .error (.refl _)
  have hbare : Twins (bare tree root above weights thresholds)
      (bare tree root above weights' thresholds') :=
    ⟨weights', thresholds', hweights, hthresholds, rfl⟩
  refine (hbare.addChains requests).bind fun r r' h => ?_
  obtain ⟨weights, thresholds, -, -, rfl⟩ := id h
  exact .ok (h.write _)

end Robot

end Linkage
