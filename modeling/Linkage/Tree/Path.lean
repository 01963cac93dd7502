import Linkage.Tree

/-!
# Paths

A chain of joints is named by its two ends, a root link and a tip link. Its joints are
found by climbing from the tip: the joint above a link is crossed, and the climb goes on
from the link at the other end of it, until it stands on the root. Nothing is known in
advance about the two ends. A root that is not above the tip shows when the climb has
passed the top of the tree, where there is no joint to cross.

Where a link hangs is looked up in a table, `Linkage.ParentLinks`, that is made once and
may be edited. In a table that leads round in a circle a climb need not end; as it never
leaves the links of the tree, it has then come by some link twice after as many steps as
there are links.

## Main definitions

* `Linkage.Tree.parentLinks`: the table of a tree.
* `Linkage.Tree.climb?`: the joints crossed in at most a number of steps.
* `Linkage.Tree.path`: the joints of a chain, from root to tip.
* `Linkage.Tree.pathNames`, `Linkage.Tree.continuousNames`: their names.
-/

namespace Linkage

variable {α : Type}

/-! ### Where the links hang -/

/-- **The link above each link**, a table with one entry for a link. -/
abbrev ParentLinks := List (String × String)

namespace ParentLinks

/-- The table with one entry set, or taken away. -/
def edit (table : ParentLinks) (link : String) : Option String → ParentLinks
  | none => table.filter (·.1 != link)
  | some parent =>
    if (table.lookup link).isSome then
      table.map fun e => if e.1 == link then (link, parent) else e
    else table ++ [(link, parent)]

/-- The table after a list of edits. -/
def editAll (table : ParentLinks) (edits : List (String × Option String)) : ParentLinks :=
  edits.foldl (fun t e => t.edit e.1 e.2) table

end ParentLinks

namespace Tree

/-- The entries of the links in a list that hang somewhere. -/
def parentLinksOf (tree : Tree α) : List Link → Except (Fault α) ParentLinks
  | [] => .ok []
  | l :: ls =>
    match l.parentJoint with
    | none => tree.parentLinksOf ls
    | some j => do
      let joint ← tree.joint j
      return (l.name, joint.parent) :: (← tree.parentLinksOf ls)

/-- **The table of a tree**: for every link with a joint above it, the parent of that
joint. -/
def parentLinks (tree : Tree α) : Except (Fault α) ParentLinks :=
  tree.parentLinksOf tree.links

/-! ### Climbing -/

/-- **The joints crossed on the way up from a link to the root**, from the top down;
nothing if the way is longer than `steps`. -/
def climb? (tree : Tree α) (above : ParentLinks) (root : String) :
    (steps : Nat) → (link : String) → Option (Except (Fault α) (List (Joint α)))
  | steps, link =>
    if link = root then some (.ok [])
    else
      match tree.parentJoint link with
      | .error fault => some (.error fault)
      | .ok none => some (.error (.noParentJoint link))
      | .ok (some joint) =>
        match above.lookup link with
        | none => some (.error (.noParentLink link))
        | some next =>
          match steps with
          | 0 => none
          | steps + 1 => (tree.climb? above root steps next).map (·.map (· ++ [joint]))

/-- **The joints of a chain**, from root to tip. -/
def path (tree : Tree α) (above : ParentLinks) (root tip : String) :
    Except (Fault α) (List (Joint α)) :=
  (tree.climb? above root tree.links.length tip).getD (.error (.endless tip))

/-- **The names of the joints of a chain**, from root to tip, those of fixed joints only
if they are asked for. -/
def pathNames (tree : Tree α) (above : ParentLinks) (root tip : String) (withFixed : Bool) :
    Except (Fault α) (List String) :=
  (tree.path above root tip).map fun joints =>
    (joints.filter fun j => withFixed || j.isMoveable).map (·.name)

/-- **The names of the continuous joints of a chain**, each once. -/
def continuousNames (tree : Tree α) (above : ParentLinks) (root tip : String) :
    Except (Fault α) (List String) := do
  let names ← tree.pathNames above root tip false
  let continuous ← names.filterM fun n => do
    return (← tree.joint n).type == .continuous
  return continuous.eraseDups

end Tree

end Linkage
