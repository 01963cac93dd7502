import Linkage.Kinematics
import Linkage.Tree

/-!
# Joint constraints

What a controller is told about a joint that moves. The *controllable* constraint bounds
its velocity on both sides and says what moving it costs; a configured velocity may
tighten the physical limit and never loosen it. The *hard* constraint bounds how far a
joint with an end to its motion may still go in either direction: a limit less the
joint's present value.

Weights and velocities are looked up under the name of the joint, and then under a name
that stands for all joints. The tests are written so that what is not a number fails
them.
-/

namespace Linkage

variable {α : Type}

/-- Settings by joint. -/
abbrev Settings (α : Type) := List (String × Number α)

/-- The name under which the weight of all other joints is set. -/
def defaultWeightKey : String := "default_joint_weight"

/-- The name under which the velocity of all other joints is set. -/
def defaultVelocityKey : String := "default_joint_velocity"

/-- **The setting of a joint**: its own, or the one for all joints. -/
def Settings.find? (settings : Settings α) (joint fallback : String) : Option (Number α) :=
  match settings.lookup joint with
  | some x => some x
  | none => settings.lookup fallback

/-- **Weighted velocity bounds of a joint.** -/
structure Controllable (α : Type) where
  joint : String
  input : Int
  weight : ScalarExpr α
  lower : ScalarExpr α
  upper : ScalarExpr α
  deriving Inhabited

/-- **Position bounds of a joint**, relative to its present value. -/
structure Hard (α : Type) where
  joint : String
  value : ScalarExpr α
  lower : ScalarExpr α
  upper : ScalarExpr α
  deriving Inhabited

variable [Scalar α]

/-- **The weight of a joint**, which must be at least zero. -/
def resolveWeight (joint : String) (weights : Settings α) : Except (Fault α) α :=
  match weights.find? joint defaultWeightKey with
  | none => .error (.noWeight joint)
  | some w =>
    if (Number.int 0).le w then w.toScalar else .error (.negativeWeight joint w)

/-- **The velocity limit of a joint**: the one set for it, or its physical limit, which
none may exceed. -/
def resolveVelocity (joint : Joint α) (thresholds : Settings α) : Except (Fault α) α :=
  match joint.limits with
  | none => .error (.noLimits joint.name)
  | some limits =>
    let v := (thresholds.find? joint.name defaultVelocityKey).getD limits.velocity
    if v.le limits.velocity then v.toScalar else .error (.tooFast joint.name v limits.velocity)

/-- **The controllable constraint of a joint.** -/
def Joint.controllable (joint : Joint α) (v : Variable) (weights thresholds : Settings α) :
    Builder α (Controllable α) := do
  let weight ← Builder.lift (resolveWeight joint.name weights)
  let limit ← Builder.lift (resolveVelocity joint thresholds)
  return {
    joint := joint.name
    input := v.index
    weight := ← constant (.real weight)
    lower := ← constant (.real (-limit))
    upper := ← constant (.real limit) }

/-- A limit less the present value of a joint. -/
def remaining (limit : Number α) (v : Variable) : Builder α (ScalarExpr α) := do
  differenceOf [← constant limit, .input v]

/-- **The hard constraint of a joint**, if its motion has an end. -/
def Joint.hard (joint : Joint α) (v : Variable) : Builder α (Option (Hard α)) :=
  if joint.type.isBounded then
    match joint.limits with
    | none => Builder.lift (.error (.noLimits joint.name))
    | some limits => do
      return some {
        joint := joint.name
        value := .input v
        lower := ← remaining limits.lower v
        upper := ← remaining limits.upper v }
  else return none

end Linkage
