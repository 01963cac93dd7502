import Linkage.Expr

/-!
# Input variables of joints

Every joint that moves reads one entry of the input vector. The entries are handed out
in the order in which the joints are first seen, and a joint keeps both its entry and
the node that reads it.

## Main definitions

* `Linkage.Variables`: the variables handed out so far.
* `Linkage.Variables.assign`: the variable of a joint, handed out if it has none yet.
* `Linkage.Variables.lookup`: the variable of a joint that has one.
-/

namespace Linkage

/-- **The input variables handed out so far**, the one that reads entry `i` in place
`i`. -/
structure Variables where
  list : List Variable
  deriving Repr, DecidableEq, Inhabited

namespace Variables

/-- No variables. -/
def empty : Variables := ⟨[]⟩

/-- The variable of a joint, if it has one. -/
def find? (vs : Variables) (name : String) : Option Variable :=
  vs.list.find? (·.name == name)

/-- Whether a joint has a variable. -/
def contains (vs : Variables) (name : String) : Bool := (vs.find? name).isSome

/-- How many variables were handed out. -/
def size (vs : Variables) : Nat := vs.list.length

/-- **The joints that have variables**, in the order of the entries they read. -/
def names (vs : Variables) : List String := vs.list.map (·.name)

/-- The variables with one more: it reads the first entry that none reads yet. -/
def push (vs : Variables) (id : Nat) (name : String) : Variables :=
  ⟨vs.list ++ [⟨id, vs.size, name⟩]⟩

/-- **The variable of a joint, handed out on first use.** A new variable takes the number
`fresh`, and what comes back with it is the next free number. -/
def assign (vs : Variables) (fresh : Nat) (name : String) : Variable × Variables × Nat :=
  match vs.find? name with
  | some v => (v, vs, fresh)
  | none => (⟨fresh, vs.size, name⟩, vs.push fresh name, fresh + 1)

/-- **The variable of a joint**, which must have one. -/
def lookup {α : Type} (vs : Variables) (name : String) : Except (Fault α) Variable :=
  match vs.find? name with
  | some v => .ok v
  | none => .error (.unregistered name)

/-- The entry that the variable of a joint reads. -/
def indexOf {α : Type} (vs : Variables) (name : String) : Except (Fault α) Int :=
  (vs.lookup name).map (·.index)

/-! ### Small lemmas -/

/-- A variable that is found has the name it was looked up by. -/
theorem name_of_find? {vs : Variables} {name : String} {v : Variable}
    (h : vs.find? name = some v) : v.name = name := by
  have := List.find?_some h
  simpa using this

/-- After a joint got its variable, that variable is found under its name. -/
theorem find?_assign (vs : Variables) (fresh : Nat) (name : String) :
    (vs.assign fresh name).2.1.find? name = some (vs.assign fresh name).1 := by
  unfold assign
  split
  · rename_i v h
    exact h
  · rename_i h
    simp only [find?, push, List.find?_append] at h ⊢
    simp [h]

end Variables

end Linkage
