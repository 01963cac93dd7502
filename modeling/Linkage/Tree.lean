import Linkage.Fault

/-!
# Kinematic trees

A robot is a tree of links. Each joint hangs a child link below a parent link, and says
how the child may move. `Linkage.Tree` is the tree as it is asked about: the links with
the joint above each, and the joints, both in a fixed order and found by name.

The two lists are plain, so a tree can also be put together without any check – with
joints that are not there, or links that go round in a circle. Every question below has
an answer for such trees too. The trees that *are* trees are those that
`Linkage.Tree.ofJoints` makes.

## Main definitions

* `Linkage.JointType`, `Linkage.Joint`, `Linkage.Link`, `Linkage.Tree`.
* `Linkage.Tree.link`, `Linkage.Tree.joint`, `Linkage.Tree.parentJoint`: the questions,
  each failing on a name that the tree lacks.
* `Linkage.Tree.assemble`: a tree from its parts, unchecked.
-/

namespace Linkage

variable {α : Type}

/-! ### Joints -/

/-- **How a joint moves.** A description may also name a type of its own making. -/
inductive JointType where
  | fixed
  | prismatic
  | revolute
  | continuous
  | planar
  | floating
  | unknown
  | other (name : String)
  deriving Repr, DecidableEq, Inhabited

namespace JointType

/-- The type that a name stands for. -/
def ofName (s : String) : JointType :=
  if s = "fixed" then fixed
  else if s = "prismatic" then prismatic
  else if s = "revolute" then revolute
  else if s = "continuous" then continuous
  else if s = "planar" then planar
  else if s = "floating" then floating
  else if s = "unknown" then unknown
  else other s

/-- The name of a type. -/
def name : JointType → String
  | fixed => "fixed"
  | prismatic => "prismatic"
  | revolute => "revolute"
  | continuous => "continuous"
  | planar => "planar"
  | floating => "floating"
  | unknown => "unknown"
  | other s => s

/-- Reading a name loses nothing. -/
@[simp]
theorem name_ofName (s : String) : (ofName s).name = s := by
  unfold ofName
  repeat' split
  all_goals simp_all [name]

/-- A joint of any type but *fixed* can be moved. -/
def isMoveable (t : JointType) : Bool := t != fixed

/-- Joints whose position is bounded by their limits. -/
def isBounded (t : JointType) : Bool := t == revolute || t == prismatic

end JointType

/-- **The place of a joint in its parent link**: a position, and a rotation as a
quaternion with its real part first. Both are lists as they were given; whether they
have three and four members is found out where they are used. -/
structure Pose (α : Type) where
  position : List (Number α)
  rotation : List (Number α)
  deriving Repr, DecidableEq, Inhabited

/-- The physical limits of a joint. -/
structure Limits (α : Type) where
  lower : Number α
  upper : Number α
  velocity : Number α
  effort : Number α
  deriving Repr, DecidableEq, Inhabited

/-- **A joint** hangs the link `child` below the link `parent`. Its axis is a direction
in the frame of the joint, again as it was given. -/
structure Joint (α : Type) where
  name : String
  type : JointType
  parent : String
  child : String
  origin : Pose α
  axis : List (Number α)
  limits : Option (Limits α)
  deriving Repr, DecidableEq, Inhabited

section Defaults

variable [Scalar α]

/-- The pose that moves nothing. -/
def Pose.rest : Pose α := ⟨[.real 0, .real 0, .real 0], [.real 1, .real 0, .real 0, .real 0]⟩

/-- The axis of a joint that gives none. -/
def Joint.defaultAxis : List (Number α) := [.real 1, .real 0, .real 0]

/-- The limits of a joint that gives some, but no number for any of them. -/
def Limits.nil : Limits α := ⟨.real 0, .real 0, .real 0, .real 0⟩

end Defaults

/-- Whether a joint can be moved. -/
def Joint.isMoveable (j : Joint α) : Bool := j.type.isMoveable

/-! ### Trees -/

/-- **A link** and the name of the joint above it; the root has none. -/
structure Link where
  name : String
  parentJoint : Option String
  deriving Repr, DecidableEq, Inhabited

/-- **A tree of links and joints.** -/
structure Tree (α : Type) where
  name : String
  root : String
  links : List Link
  joints : List (Joint α)
  deriving Repr, DecidableEq, Inhabited

namespace Tree

/-- The link of a name. -/
def link (tree : Tree α) (name : String) : Except (Fault α) Link :=
  match tree.links.find? (·.name == name) with
  | some l => .ok l
  | none => .error (.unknownLink name)

/-- **The joint of a name.** The empty name refers to none. -/
def joint (tree : Tree α) (name : String) : Except (Fault α) (Joint α) :=
  if name = "" then .error .emptyReference
  else
    match tree.joints.find? (·.name == name) with
    | some j => .ok j
    | none => .error (.unknownJoint name)

/-- **The joint above a link**, or nothing if there is none above it. -/
def parentJoint (tree : Tree α) (link : String) : Except (Fault α) (Option (Joint α)) := do
  match (← tree.link link).parentJoint with
  | none => return none
  | some j => return some (← tree.joint j)

/-- The names of the links, in order. -/
def linkNames (tree : Tree α) : List String := tree.links.map (·.name)

/-- The names of the joints, in order. -/
def jointNames (tree : Tree α) : List String := tree.joints.map (·.name)

/-- **The names of the joints that can be moved**, in order. -/
def moveableNames (tree : Tree α) : List String :=
  (tree.joints.filter Joint.isMoveable).map (·.name)

/-- Adds a thing to a list of named things: one of its name is replaced where it
stands. -/
def putNamed {β : Type} (name : β → String) (x : β) : List β → List β
  | [] => [x]
  | y :: ys => if name y == name x then x :: ys else y :: putNamed name x ys

/-- **A tree from its parts, unchecked.** Of two links or joints of one name the later
takes the place of the earlier. -/
def assemble (name root : String) (links : List Link) (joints : List (Joint α)) : Tree α where
  name := name
  root := root
  links := links.foldl (fun ls l => putNamed Link.name l ls) []
  joints := joints.foldl (fun js j => putNamed Joint.name j js) []

/-! ### Small lemmas -/

/-- A link that is found has the name it was looked up by. -/
theorem name_of_link_eq {tree : Tree α} {name : String} {l : Link}
    (h : tree.link name = .ok l) : l.name = name := by
  unfold link at h
  split at h
  · rename_i l' hl
    have := List.find?_some hl
    simp_all
  · cases h

/-- A joint that is found has the name it was looked up by. -/
theorem name_of_joint_eq {tree : Tree α} {name : String} {j : Joint α}
    (h : tree.joint name = .ok j) : j.name = name := by
  unfold joint at h
  split at h
  · cases h
  · split at h
    · rename_i j' hj
      have := List.find?_some hj
      simp_all
    · cases h

/-- A joint that is found is one of the tree's. -/
theorem mem_joints_of_joint_eq {tree : Tree α} {name : String} {j : Joint α}
    (h : tree.joint name = .ok j) : j ∈ tree.joints := by
  unfold joint at h
  split at h
  · cases h
  · split at h
    · rename_i j' hj
      cases h
      exact List.mem_of_find?_eq_some hj
    · cases h

end Tree

end Linkage
