import Linkage.Tree

/-!
# Trees from joints

A list of joints describes a tree when its joints have names of their own, no link hangs
below two joints, exactly one link hangs below none, and every link is reached from that
one by going down. `Linkage.Tree.ofJoints` tests this, in that order, and reports the
first thing that is wrong.

Going down is done breadth first: `Linkage.reachedFrom` keeps the links that are still
to be looked at in a queue and those it has looked at in a list. It ends because a link
is looked at once: what is on the queue, together with the joints below links not yet
looked at, becomes one fewer at every step. A link that it misses hangs on a circle of
links, or below one.
-/

namespace Linkage

variable {α : Type}

/-! ### What is wrong with a joint among those before it -/

/-- The first joint with an empty name, a name that is taken or a child that already
hangs somewhere, `before` being the joints in front. -/
def firstDefect (before : List (Joint α)) : List (Joint α) → Option (Fault α)
  | [] => none
  | j :: js =>
    if j.name = "" then some .emptyJointName
    else if before.any (·.name == j.name) then some (.jointTwice j.name)
    else if before.any (·.child == j.child) then some (.secondParent j.child)
    else firstDefect (before ++ [j]) js

/-! ### The links and their joints -/

/-- **The links of a description**: those given, then those that the joints mention,
parent before child, each once and where it comes first. -/
def linksOf (joints : List (Joint α)) (extra : List String) : List String :=
  (extra ++ joints.flatMap fun j => [j.parent, j.child]).eraseDups

/-- The joint that a link hangs below. -/
def jointAbove? (joints : List (Joint α)) (link : String) : Option (Joint α) :=
  joints.find? (·.child == link)

/-- The links that hang below a link, in the order of the joints. -/
def childrenOf (joints : List (Joint α)) (link : String) : List String :=
  (joints.filter (·.parent == link)).map (·.child)

/-! ### Going down, breadth first -/

/-- The joints below links that have not been looked at. -/
def unexplored (joints : List (Joint α)) (visited : List String) : List (Joint α) :=
  joints.filter fun j => !visited.contains j.parent

/-- Looking at a link takes the joints below it from those unexplored. -/
theorem length_unexplored_append (joints : List (Joint α)) {visited : List String}
    {link : String} (h : visited.contains link = false) :
    (unexplored joints (visited ++ [link])).length + (childrenOf joints link).length
      = (unexplored joints visited).length := by
  induction joints with
  | nil => rfl
  | cons j js ih =>
    simp only [unexplored, childrenOf, List.length_map, List.filter_cons] at ih ⊢
    by_cases hj : j.parent = link
    · subst hj
      have : visited.contains j.parent = false := h
      simp_all [List.contains_eq_mem]
      omega
    · by_cases hv : visited.contains j.parent = true
      · simp_all [List.contains_eq_mem]
      · simp_all [List.contains_eq_mem]
        omega

/-- **The links reached by going down**, in the order in which they are looked at. -/
def reachedFrom (joints : List (Joint α)) (visited : List String) : List String → List String
  | [] => visited
  | link :: queue =>
    if h : visited.contains link then reachedFrom joints visited queue
    else
      have := length_unexplored_append joints (Bool.eq_false_iff.2 h)
      reachedFrom joints (visited ++ [link]) (queue ++ childrenOf joints link)
termination_by queue => (unexplored joints visited).length + queue.length
decreasing_by
  · simp
  · simp only [List.length_append, List.length_cons]
    omega

/-! ### The tree -/

namespace Tree

/-- **The tree that a list of joints describes**, with further links if there are any.
The defects are looked for joint by joint, then root by root, then among the links that
are not reached. -/
def ofJoints (name : String) (joints : List (Joint α)) (extra : List String) :
    Except (Fault α) (Tree α) :=
  match firstDefect [] joints with
  | some fault => .error fault
  | none =>
    let links := linksOf joints extra
    match links.filter fun l => (jointAbove? joints l).isNone with
    | [root] =>
      let reached := reachedFrom joints [] [root]
      match links.filter fun l => !reached.contains l with
      | [] => .ok {
          name := name
          root := root
          links := links.map fun l => ⟨l, (jointAbove? joints l).map (·.name)⟩
          joints := joints }
      | missed => .error (.unreached missed root)
    | roots => .error (.rootCount roots)

end Tree

end Linkage
