import Linkage.Expr

/-!
# The inputs of an expression

Which entries of the input vector an expression depends on. They are found by going
through the nodes below it with the nodes still to be looked at on a stack. A shared
node is looked at once for every way that leads to it, so what shrinks at every step is
not the stack but the number of nodes met from all that is on it.
-/

namespace Linkage

variable {α : Type}

namespace Node

/-- A list with one more index, unless it is there already. -/
def withIndex (found : List Int) : Option Int → List Int
  | none => found
  | some i => if found.contains i then found else found ++ [i]

/-- The inputs among the nodes met from a stack, together with those already found. The
top of the stack is the head of the list, and the children of a node go on top of what
is left, the last of them uppermost. -/
def inputsFrom (found : List Int) : (stack : List (Node α)) → List Int
  | [] => found
  | n :: stack => inputsFrom (withIndex found n.input?) (n.children.reverse ++ stack)
termination_by stack => sizeOfAll stack
decreasing_by
  have hrev : sizeOfAll n.children.reverse = sizeOfAll n.children := by
    generalize n.children = ns
    induction ns with
    | nil => rfl
    | cons m ms ih =>
      rw [List.reverse_cons, sizeOfAll_append, ih]
      simp [sizeOfAll, Nat.add_comm]
  simp only [sizeOfAll_append, sizeOfAll, hrev, size_eq n]
  omega

/-- **The inputs that an expression depends on**, each once. -/
def inputs (n : Node α) : List Int := inputsFrom [] [n]

end Node

end Linkage
