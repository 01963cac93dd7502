import Linkage.Expr
import Linkage.Space.Frame

/-!
# Evaluation

An expression is evaluated at an input vector. Numbers, vectors and rotations are
computed from what is below them, operands from left to right, and the first that has
no value ends the computation.

Frames are evaluated in a *pass*, which holds the frames already computed by the
number of the cached node they belong to. A cached frame that the pass holds is not
computed again, whatever the input vector. What a pass holds survives a failure, and so
does the record of the work done in it: every computation of the frame inside a cached
or a counted node leaves the number of that node in the record.

## Main definitions

* `Linkage.readInput`: an entry of the input vector. A negative index counts from the
  end, and an index beyond either end reads the entry at that end.
* `Linkage.ScalarExpr.evaluate`, `Linkage.VectorExpr.evaluate`,
  `Linkage.RotationExpr.evaluate`.
* `Linkage.Pass`, and `Linkage.FrameExpr.evaluate` in one.
* `Linkage.FrameExpr.plain`: the value of a frame without any pass.
-/

namespace Linkage

variable {α : Type}

/-! ### Numbers, vectors and rotations -/

/-- The place of an index in a vector of a length: from the end if it is negative, and
never outside the vector. -/
def inputPlace (length : Nat) (index : Int) : Nat :=
  let place := if index < 0 then index + length else index
  min place.toNat (length - 1)

/-- Whether an integer has a place in a word of 64 bits, one of them for the sign. -/
def fitsWord (n : Int) : Bool := -0x8000000000000000 ≤ n && n ≤ 0x7fffffffffffffff

/-- **An entry of the input vector.** An empty vector has none, and an index that fits into
no word is none of any vector. -/
def readInput (q : List α) (index : Int) : Except (Fault α) α :=
  if !fitsWord index then .error (.indexTooLarge index)
  else
    match q[inputPlace q.length index]? with
    | some x => .ok x
    | none => .error .emptyInput

section Evaluate

variable [Scalar α]

/-- A given number where arithmetic needs one. -/
def Number.toScalar (x : Number α) : Except (Fault α) α :=
  match x.toScalar? with
  | some x => .ok x
  | none => .error .tooLarge

/-- Whether a given number is an integer that fits into no word. -/
def Number.isBeyondWord : Number α → Bool
  | .int n => !fitsWord n
  | .real _ => false

/-- Whether a given number is an integer. -/
def Number.isInt : Number α → Bool
  | .int _ => true
  | .real _ => false

/-- **Whether given numbers make up a row.** Integers among themselves go by way of words,
into which each must fit. -/
def Number.areRow (xs : List (Number α)) : Bool :=
  !(xs.all Number.isInt && xs.any Number.isBeyondWord)

omit [Scalar α] in
/-- With a member of `α` among them, numbers always make up a row. -/
theorem Number.areRow_of_real_mem {xs : List (Number α)} {x : α} (h : .real x ∈ xs) :
    Number.areRow xs = true := by
  have : xs.all Number.isInt = false := List.all_eq_false.2 ⟨_, h, by simp [Number.isInt]⟩
  simp [Number.areRow, this]

mutual

/-- **The value of a number expression.** -/
def ScalarExpr.evaluate (q : List α) : ScalarExpr α → Except (Fault α) α
  | .const _ value => value.toScalar
  | .input v => readInput q v.index
  | .difference _ first others => do
    let x ← first.evaluate q
    let ys ← evaluateScalars q others
    return ys.foldl (· - ·) x
  | .undefined _ => .error .noValue

/-- The values of a list of number expressions, in order. -/
def evaluateScalars (q : List α) : List (ScalarExpr α) → Except (Fault α) (List α)
  | [] => .ok []
  | e :: es => do
    let x ← e.evaluate q
    let xs ← evaluateScalars q es
    return x :: xs

end

/-- **The value of a vector expression.** -/
def VectorExpr.evaluate (q : List α) : VectorExpr α → Except (Fault α) (Vec3 α)
  | build _ x y z => do
    return ⟨← x.evaluate q, ← y.evaluate q, ← z.evaluate q⟩
  | scale _ v s => do
    let v ← v.evaluate q
    let s ← s.evaluate q
    return v.scale s
  | undefined _ => .error .noValue

/-- **The value of a rotation expression.** -/
def RotationExpr.evaluate (q : List α) : RotationExpr α → Except (Fault α) (Mat3 α)
  | quaternion _ w x y z =>
    if Number.areRow [w, x, y, z] then do
      return Mat3.ofQuaternion ⟨← w.toScalar, ← x.toScalar, ← y.toScalar, ← z.toScalar⟩
    else .error .wordTooLarge
  | axisAngle _ axis angle => do
    let axis ← axis.evaluate q
    let angle ← angle.evaluate q
    return Mat3.ofAxisAngle axis angle
  | undefined _ => .error .noValue

/-! ### Frames -/

/-- **What a pass has computed so far**: the frames of cached nodes, and a record of the
work done, the latest first in both. -/
structure Pass (α : Type) where
  held : List (Nat × Frame α)
  work : List Nat
  deriving Inhabited

omit [Scalar α] in
/-- A pass that has not begun. -/
def Pass.new : Pass α := ⟨[], []⟩

omit [Scalar α] in
/-- The pass after the frame inside a node was computed for it once more. -/
def Pass.noting (p : Pass α) (id : Nat) : Pass α := { p with work := id :: p.work }

omit [Scalar α] in
/-- The pass holding one frame more. -/
def Pass.holding (p : Pass α) (id : Nat) (f : Frame α) : Pass α :=
  { p with held := (id, f) :: p.held }

/-- A computation in a pass: what the pass has done stays done if it fails. -/
abbrev Computation (α β : Type) := ExceptT (Fault α) (StateM (Pass α)) β

/-- What needs no pass, inside one. -/
def Computation.lift {β : Type} (x : Except (Fault α) β) : Computation α β :=
  ExceptT.mk (pure x)

mutual

/-- **The value of a frame expression, computed in a pass.** -/
def FrameExpr.evaluate (q : List α) : FrameExpr α → Computation α (Frame α)
  | .build _ position r => do
    let p ← Computation.lift (position.evaluate q)
    let m ← Computation.lift (r.evaluate q)
    return Frame.ofParts p m
  | .product _ factors => do
    return Frame.product (← evaluateFrames q factors)
  | .cached id frame => do
    match (← get).held.lookup id with
    | some f => return f
    | none =>
      modify (·.noting id)
      let f ← frame.evaluate q
      modify (·.holding id f)
      return f
  | .counted id frame => do
    modify (·.noting id)
    frame.evaluate q
  | .undefined _ => throw .noValue

/-- The values of a list of frame expressions, in order. -/
def evaluateFrames (q : List α) : List (FrameExpr α) → Computation α (List (Frame α))
  | [] => return []
  | e :: es => do
    let f ← e.evaluate q
    let fs ← evaluateFrames q es
    return f :: fs

end

mutual

/-- **The value of a frame expression on its own**, every frame computed where it
stands. -/
def FrameExpr.plain (q : List α) : FrameExpr α → Except (Fault α) (Frame α)
  | .build _ position r => do
    let p ← position.evaluate q
    let m ← r.evaluate q
    return Frame.ofParts p m
  | .product _ factors => do
    return Frame.product (← plainFrames q factors)
  | .cached _ frame | .counted _ frame => frame.plain q
  | .undefined _ => .error .noValue

/-- The values of a list of frame expressions on their own, in order. -/
def plainFrames (q : List α) : List (FrameExpr α) → Except (Fault α) (List (Frame α))
  | [] => .ok []
  | e :: es => do
    let f ← e.plain q
    let fs ← plainFrames q es
    return f :: fs

end

/-! ### Nodes of any sort -/

/-- **The value of an expression**, of the sort that the expression has. -/
inductive Quantity (α : Type) where
  | scalar (x : α)
  | vector (v : Vec3 α)
  | rotation (m : Mat3 α)
  | frame (f : Frame α)
  deriving Repr, Inhabited

/-- **The value of a node, computed in a pass.** -/
def Node.evaluate (q : List α) : Node α → Computation α (Quantity α)
  | .scalar e => return .scalar (← Computation.lift (e.evaluate q))
  | .vector e => return .vector (← Computation.lift (e.evaluate q))
  | .rotation e => return .rotation (← Computation.lift (e.evaluate q))
  | .frame e => return .frame (← e.evaluate q)

/-- A computation carried out in a pass. -/
def Computation.inPass {β : Type} (c : Computation α β) (p : Pass α) :
    Except (Fault α) β × Pass α :=
  Id.run (c.run.run p)

end Evaluate

end Linkage
