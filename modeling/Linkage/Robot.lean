import Linkage.Config
import Linkage.Robot.Log
import Linkage.Tree.Path

/-!
# Robots

A robot is a tree with a list of chains that are asked for. Everything is worked out
when it is made, chain by chain in the order in which they are asked for: the path of
the chain, input variables for the joints on it that move and have none yet, its frame,
and constraints for the joints that have none yet. Afterwards the robot is only asked
questions.

The making of a robot is a fold over the requests, `Linkage.Robot.compile`. It stops at
the first thing that is wrong, and gives the lines written so far along with it.

## Main definitions

* `Linkage.Robot`.
* `Linkage.Robot.addChain`: the robot with one chain more.
* `Linkage.Robot.compile`: the robot of a list of requests.
* `Linkage.Robot.scope`, `Linkage.Robot.controllables` and the other questions.
-/

namespace Linkage

variable {α : Type}

/-- **A robot**, as far as it has been made. -/
structure Robot (α : Type) where
  tree : Tree α
  root : String
  above : ParentLinks
  weights : Settings α
  thresholds : Settings α
  inputs : Variables
  frames : FrameTable α
  chains : List ChainKey
  controllable : List (Controllable α)
  hard : List (Hard α)
  /-- The lines written so far. -/
  log : List LogLine
  /-- The next number that no node has. -/
  nextId : Nat
  deriving Inhabited

/-- What went wrong, and the lines written before. -/
structure Failure (α : Type) where
  fault : Fault α
  log : List LogLine
  deriving Inhabited

namespace Robot

/-- The robot after a line was written. -/
def write (r : Robot α) (line : LogLine) : Robot α := { r with log := r.log ++ [line] }

/-- A failure with what the robot has written. -/
def fail {β : Type} (r : Robot α) (fault : Fault α) : Except (Failure α) β :=
  .error ⟨fault, r.log⟩

/-- A result that may fail, with what the robot has written if it does. -/
def attempt {β : Type} (r : Robot α) : Except (Fault α) β → Except (Failure α) β
  | .ok x => .ok x
  | .error fault => r.fail fault

/-- Builds nodes for a robot. -/
def build {β : Type} (r : Robot α) (b : Builder α β) : Except (Failure α) (β × Robot α) :=
  (r.attempt (b r.nextId)).map fun (x, next) => (x, { r with nextId := next })

/-! ### Making a robot -/

/-- **Input variables for the joints that have none yet**, in order. -/
def assignAll (r : Robot α) : List String → Robot α
  | [] => r
  | name :: names =>
    if r.inputs.contains name then r.assignAll names
    else
      let (v, vs, next) := r.inputs.assign r.nextId name
      let r := { r with inputs := vs, nextId := next }
      (r.write (.assigned name v.index)).assignAll names

/-- Whether a joint has its constraints. -/
def isConstrained (r : Robot α) (name : String) : Bool :=
  r.controllable.any (·.joint == name)

variable [Scalar α]

/-- **The constraints of one joint.** -/
def constrain (r : Robot α) (name : String) : Except (Failure α) (Robot α) := do
  if r.isConstrained name then return r
  let joint ← r.attempt (r.tree.joint name)
  let v ← r.attempt (r.inputs.lookup name)
  let (c, r) ← r.build (joint.controllable v r.weights r.thresholds)
  let (h, r) ← r.build (joint.hard v)
  return { r with controllable := r.controllable ++ [c], hard := r.hard ++ h.toList }

/-- Constraints for the joints that have none yet, in order. -/
def constrainAll (r : Robot α) : List String → Except (Failure α) (Robot α)
  | [] => .ok r
  | name :: names => do
    let r ← r.constrain name
    r.constrainAll names

/-- **The robot with one chain more.** A chain that it has already is not worked out
again. -/
def addChain (r : Robot α) (key : ChainKey) : Except (Failure α) (Robot α) := do
  if r.frames.contains key then return r.write (.repeated key)
  let moving ← r.attempt (r.tree.pathNames r.above key.1 key.2 false)
  let all ← r.attempt (r.tree.pathNames r.above key.1 key.2 true)
  let r := r.assignAll moving
  let ((_, frames), r) ← r.build (r.frames.getOrBuild r.tree r.inputs key all)
  let r := { r with frames, chains := r.chains ++ [key] }
  let r ← r.constrainAll moving
  return r.write (.compiled key all.length)

/-- The robot with all chains that are asked for. -/
def addChains (r : Robot α) : List ChainRequest → Except (Failure α) (Robot α)
  | [] => .ok r
  | request :: requests => do
    let key ← r.attempt (request.key r.root)
    let r ← r.addChain key
    r.addChains requests

omit [Scalar α] in
/-- A robot without chains. -/
def bare (tree : Tree α) (root : String) (above : ParentLinks)
    (weights thresholds : Settings α) : Robot α where
  tree := tree
  root := root
  above := above
  weights := weights
  thresholds := thresholds
  inputs := .empty
  frames := .empty
  chains := []
  controllable := []
  hard := []
  log := []
  nextId := 0

/-- **The robot of a list of requests.** The requests may also be something that is no
list of anything, which comes out after the tree has been looked over. -/
def compile (tree : Tree α) (root : String) (requests : Except (Fault α) (List ChainRequest))
    (weights thresholds : Settings α) : Except (Failure α) (Robot α) :=
  match tree.parentLinks with
  | .error fault => .error ⟨fault, []⟩
  | .ok above =>
    match requests with
    | .error fault => .error ⟨fault, []⟩
    | .ok requests => do
      let r ← (bare tree root above weights thresholds).addChains requests
      return r.write (.finished tree.name r.chains.length r.inputs.size)

/-- **The robot of a configuration.** -/
def ofConfig (tree : Tree Float) (c : Config) : Except (Failure Float) (Robot Float) :=
  compile tree c.root (.ok c.chains) (Config.settings c.weights) (Config.settings c.thresholds)

/-! ### Questions -/

omit [Scalar α]

/-- How many joints have an input. -/
def size (r : Robot α) : Nat := r.inputs.size

/-- The joints that have an input, in the order of the input vector. -/
def jointNames (r : Robot α) : List String := r.inputs.names

/-- The input variable of a joint. -/
def joint (r : Robot α) (name : String) : Except (Fault α) Variable := r.inputs.lookup name

/-- **The frame of a chain**, the tip relative to the root. -/
def frame (r : Robot α) (root tip : String) : Except (Fault α) (FrameExpr α) :=
  r.frames.get (root, tip)

/-- **The controllable constraints**, in the order of the input vector. -/
def controllables (r : Robot α) : List (Controllable α) :=
  r.controllable.mergeSort fun c d => c.input ≤ d.input

/-- **The frames to build tasks from**: one for every chain, in order, under the name of
its tip. Chains with one tip have one each. -/
def scope (r : Robot α) : Except (Fault α) (List (String × FrameExpr α)) :=
  r.chains.mapM fun key => (r.frames.get key).map (key.2, ·)

/-- The names of the joints between two links. -/
def pathNames (r : Robot α) (root tip : String) (withFixed : Bool) :
    Except (Fault α) (List String) :=
  r.tree.pathNames r.above root tip withFixed

/-- The names of the continuous joints between two links. -/
def continuousNames (r : Robot α) (root tip : String) : Except (Fault α) (List String) :=
  r.tree.continuousNames r.above root tip

/-- Whether a joint turns without end. -/
def isContinuous (r : Robot α) (name : String) : Except (Fault α) Bool :=
  (r.tree.joint name).map fun j => j.type == .continuous

end Robot

end Linkage
