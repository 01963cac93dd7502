import Linkage.Decimal.Reader
import Linkage.Markup.Document
import Linkage.Space.Rotation
import Linkage.Tree.OfJoints

/-!
# Robot descriptions

A robot is described by a document: an element with the links and the joints directly
inside it, each a *link* or *joint* element. A joint names its parent and its child, and
may give its place, its axis and its limits. Elements of other names are left alone, and
of several that say one thing the first counts.

All links are looked at before any joint, and the joints one after the other; the first
thing that is wrong is reported. What the joints make is then put together by
`Linkage.Tree.ofJoints`.

## Main definitions

* `Linkage.Description.readVector`: three numbers in one attribute.
* `Linkage.Description.readJoint`: a joint.
* `Linkage.Description.ofElement`, `Linkage.Description.ofText`: a tree.
-/

namespace Linkage.Description

open Markup

/-- Failures of reading a description. -/
abbrev Read (β : Type) := Except (Fault Float) β

/-! ### Numbers -/

/-- **The number that a text spells.** -/
def readNumber (text : String) : Read Float :=
  match Decimal.read? text with
  | some x => .ok x
  | none => .error (.notNumeric text)

/-- The numbers that some words spell, up to the first that spells none. -/
def readNumbers : List String → Read (List Float)
  | [] => .ok []
  | w :: ws => return (← readNumber w) :: (← readNumbers ws)

/-- **Three numbers between blanks.** Words that are no numbers come out before a wrong
number of them. -/
def readVector (joint text : String) : Read (Vec3 Float) := do
  match ← readNumbers (Text.words text) with
  | [x, y, z] => return ⟨x, y, z⟩
  | _ => .error (.malformedVector joint text)

/-! ### Joints -/

/-- A vector as a joint holds it. -/
def numbers (v : Vec3 Float) : List (Number Float) := [.real v.x, .real v.y, .real v.z]

/-- The place of a joint: a position, and the angles about the three axes. -/
def readPose (joint : String) : Option Element → Read (Pose Float)
  | none => .ok Pose.rest
  | some e => do
    let p ← readVector joint ((e.attribute? "xyz").getD "0 0 0")
    let angles ← readVector joint ((e.attribute? "rpy").getD "0 0 0")
    let q := Quaternion.ofRollPitchYaw angles
    return { position := numbers p, rotation := [.real q.w, .real q.x, .real q.y, .real q.z] }

/-- Below this length an axis counts as having none. -/
def leastAxis : Float := 1e-12

/-- **The axis of a joint**, divided by its length. An axis without length is an axis
only for a joint that does not move, and stays as it is. -/
def readAxis (joint : String) (type : JointType) (e : Option Element) : Read (Vec3 Float) := do
  let axis ← match e with
    | none => pure ⟨1, 0, 0⟩
    | some e => readVector joint ((e.attribute? "xyz").getD "1 0 0")
  if axis.norm < leastAxis then
    if type = .fixed then return axis else .error (.zeroAxis joint)
  else return axis.unit

/-- One limit, zero if it is not given. -/
def readLimit (e : Element) (key : String) : Read (Number Float) :=
  match e.attribute? key with
  | none => .ok (.real 0)
  | some text => (readNumber text).map .real

/-- The limits of a joint. -/
def readLimits : Option Element → Read (Option (Limits Float))
  | none => .ok none
  | some e => do
    return some {
      lower := ← readLimit e "lower"
      upper := ← readLimit e "upper"
      velocity := ← readLimit e "velocity"
      effort := ← readLimit e "effort" }

/-- An attribute that is there and not empty. -/
def given? (e : Option Element) (key : String) : Option String :=
  match e.bind (·.attribute? key) with
  | some "" | none => none
  | some text => some text

/-- **Reads a joint.** -/
def readJoint (e : Element) : Read (Joint Float) :=
  match given? (some e) "name" with
  | none => .error .unnamedJoint
  | some name => do
    let type := JointType.ofName ((e.attribute? "type").getD "unknown")
    match given? (e.child? "parent") "link" with
    | none => .error (.noParentOf name)
    | some parent =>
      match given? (e.child? "child") "link" with
      | none => .error (.noChildOf name)
      | some child => do
        let origin ← readPose name (e.child? "origin")
        let axis ← readAxis name type (e.child? "axis")
        let limits ← readLimits (e.child? "limit")
        return { name, type, parent, child, origin, axis := numbers axis, limits }

/-- The joints of some elements, up to the first that is none. -/
def readJoints : List Element → Read (List (Joint Float))
  | [] => .ok []
  | e :: es => return (← readJoint e) :: (← readJoints es)

/-- The names of some links, each of which must have one. -/
def readLinks : List Element → Read (List String)
  | [] => .ok []
  | e :: es =>
    match given? (some e) "name" with
    | none => .error .unnamedLink
    | some name => return name :: (← readLinks es)

/-! ### Trees -/

/-- **The tree that an element describes.** -/
def ofElement (e : Element) : Read (Tree Float) := do
  let links ← readLinks (e.childrenNamed "link")
  let joints ← readJoints (e.childrenNamed "joint")
  Tree.ofJoints ((e.attribute? "name").getD "") joints links

/-- **The tree that a document describes.** -/
def ofText (text : String) : Read (Tree Float) :=
  match read? text with
  | none => .error .malformedMarkup
  | some e => ofElement e

end Linkage.Description
