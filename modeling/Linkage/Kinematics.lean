import Linkage.Expr.Evaluate
import Linkage.Tree
import Linkage.Variables

/-!
# Forward kinematics

The frame of a chain is the product of the frames of its joints, from root to tip. A
joint has the frame of its place in the parent link, and after it, if the joint moves,
the frame of its motion: a shift along its axis by the joint's input, or a turn about it.
The product begins with an identity frame and is cached, so that everything built on one
chain shares one computation of it in a pass.

## Main definitions

* `Linkage.Pose.frame`: the fixed frame of a pose.
* `Linkage.Joint.frames`: the one or two frames of a joint.
* `Linkage.chainFrame`: the cached frame of a list of joints, given by name.
* `Linkage.FrameTable`: the frames of the chains built so far, each built once.
-/

namespace Linkage

variable {α : Type}

/-! ### Building nodes -/

/-- **Building expressions.** The number is the next that no node has; a failure leaves
nothing behind. -/
abbrev Builder (α β : Type) := StateT Nat (Except (Fault α)) β

namespace Builder

/-- A number that no other node has. -/
def fresh : Builder α Nat := fun n => .ok (n, n + 1)

/-- What builds no node. -/
def lift {β : Type} (x : Except (Fault α) β) : Builder α β := fun n => x.map (·, n)

end Builder

section

variable [Scalar α]

/-- **The members of a list that should have three.** -/
def three {β : Type} : List β → Except (Fault α) (β × β × β)
  | [x, y, z] => .ok (x, y, z)
  | xs => .error (if xs.length < 3 then .tooFew 3 xs.length else .tooMany 3)

/-- **The members of a list that should have four.** -/
def four {β : Type} : List β → Except (Fault α) (β × β × β × β)
  | [w, x, y, z] => .ok (w, x, y, z)
  | xs => .error (if xs.length < 4 then .tooFew 4 xs.length else .tooMany 4)

/-- A constant. -/
def constant (x : Number α) : Builder α (ScalarExpr α) := return .const (← Builder.fresh) x

/-- **A constant vector**: three numbers, each with a node of its own. -/
def constantVector (values : List (Number α)) : Builder α (VectorExpr α) := do
  let (x, y, z) ← Builder.lift (three values)
  let x ← Builder.lift x.toScalar
  let y ← Builder.lift y.toScalar
  let z ← Builder.lift z.toScalar
  let x ← constant (.real x)
  let y ← constant (.real y)
  let z ← constant (.real z)
  return .build (← Builder.fresh) x y z

/-- A vector of three expressions, zero where one is missing. -/
def vectorOf (x y z : Option (ScalarExpr α)) : Builder α (VectorExpr α) := do
  let x ← x.getDM (constant (.real 0))
  let y ← y.getDM (constant (.real 0))
  let z ← z.getDM (constant (.real 0))
  return .build (← Builder.fresh) x y z

/-- The rotation that turns nothing. -/
def noRotation : Builder α (RotationExpr α) :=
  return .quaternion (← Builder.fresh) (.real 1) (.real 0) (.real 0) (.real 0)

/-- A frame of a position and a rotation, none where it is missing. -/
def frameOf (position : Option (VectorExpr α)) (rotation : Option (RotationExpr α)) :
    Builder α (FrameExpr α) := do
  let position ← position.getDM (vectorOf none none none)
  let rotation ← rotation.getDM noRotation
  return .build (← Builder.fresh) position rotation

/-- **A difference**: the first operand less all others, of which there may be none. -/
def differenceOf : List (ScalarExpr α) → Builder α (ScalarExpr α)
  | [] => Builder.lift (.error .noOperands)
  | first :: others => return .difference (← Builder.fresh) first others

/-! ### Joints -/

/-- **The fixed frame of a pose.** The rotation is taken apart first. -/
def Pose.frame (pose : Pose α) : Builder α (FrameExpr α) := do
  let (w, x, y, z) ← Builder.lift (four pose.rotation)
  let position ← constantVector pose.position
  let rotation := .quaternion (← Builder.fresh) w x y z
  frameOf (some position) (some rotation)

/-- The frame of a joint's motion, if it has one. -/
def Joint.motion (joint : Joint α) (vs : Variables) : Builder α (List (FrameExpr α)) :=
  match joint.type with
  | .fixed => return []
  | .prismatic => do
    let axis ← constantVector joint.axis
    let v ← Builder.lift (vs.lookup joint.name)
    let shift := .scale (← Builder.fresh) axis (.input v)
    return [← frameOf (some shift) none]
  | .revolute | .continuous => do
    let rest ← vectorOf none none none
    let axis ← constantVector joint.axis
    let v ← Builder.lift (vs.lookup joint.name)
    let turn := .axisAngle (← Builder.fresh) axis (.input v)
    return [← frameOf (some rest) (some turn)]
  | .planar | .floating | .unknown =>
    Builder.lift (.error (.unsupportedType joint.name joint.type.name))
  | .other _ => Builder.lift (.error (.unmodeledType joint.name joint.type.name))

/-- **The frames of a joint**, in the order in which they are applied: its place, and its
motion if it moves. -/
def Joint.frames (joint : Joint α) (vs : Variables) : Builder α (List (FrameExpr α)) := do
  let place ← joint.origin.frame
  return place :: (← joint.motion vs)

/-! ### Chains -/

/-- The frames of a list of joints, given by name. -/
def framesOf (tree : Tree α) (vs : Variables) : List String → Builder α (List (FrameExpr α))
  | [] => return []
  | name :: names => do
    let joint ← Builder.lift (tree.joint name)
    let frames ← joint.frames vs
    return frames ++ (← framesOf tree vs names)

/-- **The cached frame of a chain**, given by the names of all its joints from root to
tip. -/
def chainFrame (tree : Tree α) (vs : Variables) (names : List String) :
    Builder α (FrameExpr α) := do
  let start ← frameOf none none
  let frames ← framesOf tree vs names
  let product := .product (← Builder.fresh) (start :: frames)
  return .cached (← Builder.fresh) product

/-- **A chain is named by its root and its tip.** -/
abbrev ChainKey := String × String

/-- **The frames of the chains built so far**, in the order in which they were built. -/
structure FrameTable (α : Type) where
  entries : List (ChainKey × FrameExpr α)
  deriving Inhabited

namespace FrameTable

omit [Scalar α] in
/-- No frames. -/
def empty : FrameTable α := ⟨[]⟩

omit [Scalar α] in
/-- Whether a chain was built. -/
def contains (t : FrameTable α) (key : ChainKey) : Bool := (t.entries.lookup key).isSome

omit [Scalar α] in
/-- **The frame of a chain** that was built. -/
def get (t : FrameTable α) (key : ChainKey) : Except (Fault α) (FrameExpr α) :=
  match t.entries.lookup key with
  | some f => .ok f
  | none => .error (.unknownChain key.1 key.2)

omit [Scalar α] in
/-- The chains built, in order. -/
def keys (t : FrameTable α) : List ChainKey := t.entries.map Prod.fst

/-- **The frame of a chain, built on first use.** A chain that was built before keeps its
frame, whatever joints are named now. -/
def getOrBuild (t : FrameTable α) (tree : Tree α) (vs : Variables) (key : ChainKey)
    (names : List String) : Builder α (FrameExpr α × FrameTable α) := do
  match t.entries.lookup key with
  | some f => return (f, t)
  | none =>
    let f ← chainFrame tree vs names
    return (f, ⟨t.entries ++ [(key, f)]⟩)

end FrameTable

end

end Linkage
