import Linkage.Fault

/-!
# Expressions

An expression says how a number, a vector, a rotation or a frame is computed from an
input vector. Expressions are built once and evaluated often, and parts of them are
shared: a node that two expressions mention is *the same* node in both. Every node
therefore has a number of its own, and two nodes are one exactly when their numbers are.
The numbers are handed out by whoever builds nodes, each once.

There are four sorts of expressions, each a type of its own, as a rotation can stand
only where a rotation is wanted. `Linkage.Node` is an expression of any sort. A node of
kind `undefined` has a sort but no value.

## Main definitions

* `Linkage.ScalarExpr`, `Linkage.VectorExpr`, `Linkage.RotationExpr`,
  `Linkage.FrameExpr`: the four sorts.
* `Linkage.Node`, with `Linkage.Node.id` and `Linkage.Node.children`.
* `Linkage.Node.size`: how many nodes are met on all ways down from a node.
-/

namespace Linkage

/-- **An input variable**: an entry of the input vector, and the name it goes by. -/
structure Variable where
  id : Nat
  index : Int
  name : String
  deriving Repr, DecidableEq, Inhabited

/-! ### The four sorts -/

/-- **Expressions for a number**: a constant, an input, or a first operand less all
others. -/
inductive ScalarExpr (α : Type) where
  | const (id : Nat) (value : Number α)
  | input (v : Variable)
  | difference (id : Nat) (first : ScalarExpr α) (others : List (ScalarExpr α))
  | undefined (id : Nat)
  deriving Inhabited

/-- **Expressions for a vector.** -/
inductive VectorExpr (α : Type) where
  | build (id : Nat) (x y z : ScalarExpr α)
  | scale (id : Nat) (vector : VectorExpr α) (scalar : ScalarExpr α)
  | undefined (id : Nat)
  deriving Inhabited

/-- **Expressions for a rotation**: a constant quaternion, or an axis with an angle. -/
inductive RotationExpr (α : Type) where
  | quaternion (id : Nat) (w x y z : Number α)
  | axisAngle (id : Nat) (axis : VectorExpr α) (angle : ScalarExpr α)
  | undefined (id : Nat)
  deriving Inhabited

/-- **Expressions for a frame.** A `cached` frame is computed at most once in a pass, and
a `counted` one notes every time it is computed. -/
inductive FrameExpr (α : Type) where
  | build (id : Nat) (position : VectorExpr α) (rotation : RotationExpr α)
  | product (id : Nat) (factors : List (FrameExpr α))
  | cached (id : Nat) (frame : FrameExpr α)
  | counted (id : Nat) (frame : FrameExpr α)
  | undefined (id : Nat)
  deriving Inhabited

/-- **An expression of any sort.** -/
inductive Node (α : Type) where
  | scalar (e : ScalarExpr α)
  | vector (e : VectorExpr α)
  | rotation (e : RotationExpr α)
  | frame (e : FrameExpr α)
  deriving Inhabited

variable {α : Type}

/-! ### The number of a node -/

/-- The number of a node. -/
def ScalarExpr.id : ScalarExpr α → Nat
  | const id _ | difference id _ _ | undefined id => id
  | input v => v.id

/-- The number of a node. -/
def VectorExpr.id : VectorExpr α → Nat
  | build id _ _ _ | scale id _ _ | undefined id => id

/-- The number of a node. -/
def RotationExpr.id : RotationExpr α → Nat
  | quaternion id _ _ _ _ | axisAngle id _ _ | undefined id => id

/-- The number of a node. -/
def FrameExpr.id : FrameExpr α → Nat
  | build id _ _ | product id _ | cached id _ | counted id _ | undefined id => id

namespace Node

/-- **The number of a node.** -/
def id : Node α → Nat
  | scalar e => e.id
  | vector e => e.id
  | rotation e => e.id
  | frame e => e.id

/-! ### The nodes below a node -/

/-- **The nodes that a node is computed from**, in order. -/
def children : Node α → List (Node α)
  | scalar (.const ..) | scalar (.input _) | scalar (.undefined _) => []
  | scalar (.difference _ first others) => scalar first :: others.map scalar
  | vector (.build _ x y z) => [scalar x, scalar y, scalar z]
  | vector (.scale _ v s) => [vector v, scalar s]
  | vector (.undefined _) => []
  | rotation (.quaternion ..) | rotation (.undefined _) => []
  | rotation (.axisAngle _ axis angle) => [vector axis, scalar angle]
  | frame (.build _ position r) => [vector position, rotation r]
  | frame (.product _ factors) => factors.map frame
  | frame (.cached _ f) | frame (.counted _ f) => [frame f]
  | frame (.undefined _) => []

/-- The input that a node is, if it is one. -/
def input? : Node α → Option Int
  | scalar (.input v) => some v.index
  | _ => none

end Node

namespace Node

/-! ### Sorts -/

/-- The node as an expression for a number. A node without a value is of every sort. -/
def asScalar? : Node α → Option (ScalarExpr α)
  | scalar e => some e
  | vector (.undefined id) | rotation (.undefined id) | frame (.undefined id) =>
    some (.undefined id)
  | _ => none

/-- The node as an expression for a vector. -/
def asVector? : Node α → Option (VectorExpr α)
  | vector e => some e
  | scalar (.undefined id) | rotation (.undefined id) | frame (.undefined id) =>
    some (.undefined id)
  | _ => none

/-- The node as an expression for a rotation. -/
def asRotation? : Node α → Option (RotationExpr α)
  | rotation e => some e
  | scalar (.undefined id) | vector (.undefined id) | frame (.undefined id) =>
    some (.undefined id)
  | _ => none

/-- The node as an expression for a frame. -/
def asFrame? : Node α → Option (FrameExpr α)
  | frame e => some e
  | scalar (.undefined id) | vector (.undefined id) | rotation (.undefined id) =>
    some (.undefined id)
  | _ => none

end Node

/-! ### Sizes -/

mutual

/-- The nodes met on all ways down. -/
def ScalarExpr.size : ScalarExpr α → Nat
  | .const .. | .input _ | .undefined _ => 1
  | .difference _ first others => 1 + (first.size + sizeOfScalars others)

/-- The nodes met from a list of expressions. -/
def sizeOfScalars : List (ScalarExpr α) → Nat
  | [] => 0
  | e :: es => e.size + sizeOfScalars es

end

/-- The nodes met on all ways down. -/
def VectorExpr.size : VectorExpr α → Nat
  | build _ x y z => 1 + (x.size + (y.size + z.size))
  | scale _ v s => 1 + (v.size + s.size)
  | undefined _ => 1

/-- The nodes met on all ways down. -/
def RotationExpr.size : RotationExpr α → Nat
  | quaternion .. | undefined _ => 1
  | axisAngle _ axis angle => 1 + (axis.size + angle.size)

mutual

/-- The nodes met on all ways down. -/
def FrameExpr.size : FrameExpr α → Nat
  | .build _ position r => 1 + (position.size + r.size)
  | .product _ factors => 1 + sizeOfFrames factors
  | .cached _ f | .counted _ f => 1 + f.size
  | .undefined _ => 1

/-- The nodes met from a list of expressions. -/
def sizeOfFrames : List (FrameExpr α) → Nat
  | [] => 0
  | e :: es => e.size + sizeOfFrames es

end

namespace Node

/-- The nodes met on all ways down from a node, the node among them. A node that is
shared counts once for every way that leads to it. -/
def size : Node α → Nat
  | scalar e => e.size
  | vector e => e.size
  | rotation e => e.size
  | frame e => e.size

/-- The nodes met from a list of nodes. -/
def sizeOfAll : List (Node α) → Nat
  | [] => 0
  | n :: ns => n.size + sizeOfAll ns

/-- Sizes add up. -/
@[simp]
theorem sizeOfAll_append (ns ms : List (Node α)) :
    sizeOfAll (ns ++ ms) = sizeOfAll ns + sizeOfAll ms := by
  induction ns with
  | nil => simp [sizeOfAll]
  | cons n ns ih => simp [sizeOfAll, ih, Nat.add_assoc]

theorem sizeOfAll_map_scalar (es : List (ScalarExpr α)) :
    sizeOfAll (es.map scalar) = sizeOfScalars es := by
  induction es with
  | nil => rfl
  | cons e es ih => simp [sizeOfAll, sizeOfScalars, size, ih]

theorem sizeOfAll_map_frame (es : List (FrameExpr α)) :
    sizeOfAll (es.map frame) = sizeOfFrames es := by
  induction es with
  | nil => rfl
  | cons e es ih => simp [sizeOfAll, sizeOfFrames, size, ih]

/-- **A node is met once, and then what is below it.** -/
theorem size_eq (n : Node α) : n.size = 1 + sizeOfAll n.children := by
  match n with
  | scalar (.const ..) | scalar (.input _) | scalar (.undefined _) =>
    simp [size, children, sizeOfAll, ScalarExpr.size]
  | scalar (.difference _ first others) =>
    simp [size, children, sizeOfAll, ScalarExpr.size, sizeOfAll_map_scalar]
  | vector (.build ..) | vector (.scale ..) | vector (.undefined _) =>
    simp [size, children, sizeOfAll, VectorExpr.size]
  | rotation (.quaternion ..) | rotation (.axisAngle ..) | rotation (.undefined _) =>
    simp [size, children, sizeOfAll, RotationExpr.size]
  | frame (.build ..) | frame (.cached ..) | frame (.counted ..) | frame (.undefined _) =>
    simp [size, children, sizeOfAll, FrameExpr.size]
  | frame (.product _ factors) =>
    simp [size, children, FrameExpr.size, sizeOfAll_map_frame]

end Node

end Linkage
