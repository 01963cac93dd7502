import Linkage.Proofs.Dependence
import Linkage.Proofs.Loop
import Mathlib.Data.Finset.Dedup
import Mathlib.Data.Finset.Option

/-!
# Gathering the inputs turn by turn

Which inputs an expression has can be said by recursion on the expression: an input has itself, and
anything else has those of its parts, all together (`Linkage.Node.indices`,
`Linkage.Node.indices_eq`). They are not found that way. The nodes still to be gone through are on
a stack (`Linkage.Node.inputsFrom`); the one on top is taken at every turn, and its children are
put on top of what is left.

Two things are known of every turn, and they do not depend on the order in which the children are
put there. What has been found, together with the inputs of all that is on the stack, stays the
same (`Linkage.Gathering.Turn.whole_eq`): what goes from the one to the other is one step of the
recursion. And the nodes that are met on all ways down from the stack become one fewer
(`Linkage.Gathering.Turn.size_eq`), though the stack may grow. So the turns are exactly as many as
there are ways down from the expression (`Linkage.Node.size`), a node that is shared being taken
once for every way that leads to it, and what is found in the end is what the recursion says.

* `Linkage.Node.indices` – the inputs of an expression by recursion;
* `Linkage.Node.inputs_outcome` – the search for them, and any search that puts the children on
  the stack in an order of its own.
-/

namespace Linkage

variable {α : Type}

/-! ### The inputs by recursion -/

mutual

/-- **The inputs of a number expression.** -/
def ScalarExpr.indices : ScalarExpr α → Finset Int
  | .const .. | .undefined _ => ∅
  | .input v => {v.index}
  | .difference _ first others => first.indices ∪ indicesOfScalars others

/-- The inputs of a list of number expressions. -/
def indicesOfScalars : List (ScalarExpr α) → Finset Int
  | [] => ∅
  | e :: es => e.indices ∪ indicesOfScalars es

end

/-- **The inputs of a vector expression.** -/
def VectorExpr.indices : VectorExpr α → Finset Int
  | build _ x y z => x.indices ∪ (y.indices ∪ z.indices)
  | scale _ v s => v.indices ∪ s.indices
  | undefined _ => ∅

/-- **The inputs of a rotation expression.** -/
def RotationExpr.indices : RotationExpr α → Finset Int
  | quaternion .. | undefined _ => ∅
  | axisAngle _ axis angle => axis.indices ∪ angle.indices

mutual

/-- **The inputs of a frame expression.** -/
def FrameExpr.indices : FrameExpr α → Finset Int
  | .build _ position r => position.indices ∪ r.indices
  | .product _ factors => indicesOfFrames factors
  | .cached _ f | .counted _ f => f.indices
  | .undefined _ => ∅

/-- The inputs of a list of frame expressions. -/
def indicesOfFrames : List (FrameExpr α) → Finset Int
  | [] => ∅
  | e :: es => e.indices ∪ indicesOfFrames es

end

namespace Node

/-- **The inputs of an expression**, by recursion on it. -/
def indices : Node α → Finset Int
  | scalar e => e.indices
  | vector e => e.indices
  | rotation e => e.indices
  | frame e => e.indices

/-- The inputs of all expressions of a list. -/
def indicesOfAll (ns : List (Node α)) : Finset Int := (ns.map indices).foldr (· ∪ ·) ∅

@[simp]
theorem indicesOfAll_nil : indicesOfAll ([] : List (Node α)) = ∅ := rfl

@[simp]
theorem indicesOfAll_cons (n : Node α) (ns : List (Node α)) :
    indicesOfAll (n :: ns) = n.indices ∪ indicesOfAll ns := rfl

@[simp]
theorem indicesOfAll_append (ns ms : List (Node α)) :
    indicesOfAll (ns ++ ms) = indicesOfAll ns ∪ indicesOfAll ms := by
  induction ns with
  | nil => simp
  | cons n ns ih => rw [List.cons_append, indicesOfAll_cons, ih, indicesOfAll_cons,
      Finset.union_assoc]

theorem indicesOfAll_map_scalar (es : List (ScalarExpr α)) :
    indicesOfAll (es.map scalar) = indicesOfScalars es := by
  induction es with
  | nil => rfl
  | cons e es ih => rw [List.map_cons, indicesOfAll_cons, ih, indicesOfScalars, indices]

theorem indicesOfAll_map_frame (es : List (FrameExpr α)) :
    indicesOfAll (es.map frame) = indicesOfFrames es := by
  induction es with
  | nil => rfl
  | cons e es ih => rw [List.map_cons, indicesOfAll_cons, ih, indicesOfFrames, indices]

/-- **An input has itself, and anything else has the inputs of its parts.** -/
theorem indices_eq (n : Node α) :
    n.indices = match n.input? with
      | some i => {i}
      | none => indicesOfAll n.children := by
  match n with
  | scalar (.const ..) | scalar (.input _) | scalar (.undefined _) => rfl
  | scalar (.difference _ first others) =>
    simp [indices, children, input?, ScalarExpr.indices, indicesOfAll_map_scalar]
  | vector (.build ..) | vector (.scale ..) | vector (.undefined _) =>
    simp [indices, children, input?, VectorExpr.indices]
  | rotation (.quaternion ..) | rotation (.axisAngle ..) | rotation (.undefined _) =>
    simp [indices, children, input?, RotationExpr.indices]
  | frame (.build ..) | frame (.cached ..) | frame (.counted ..) | frame (.undefined _) =>
    simp [indices, children, input?, FrameExpr.indices]
  | frame (.product _ factors) =>
    simp [indices, children, input?, FrameExpr.indices, indicesOfAll_map_frame]

/-- An input has no parts, so an expression has its own input, if it is one, and those of its
parts. -/
theorem indices_eq_union (n : Node α) : n.indices = n.input?.toFinset ∪ indicesOfAll n.children := by
  rw [indices_eq]
  rcases h : n.input? with _ | i
  · exact (Finset.empty_union _).symm
  · have hnone : n.children = [] := by
      match n, h with
      | scalar (.input v), _ => rfl
    rw [hnone, indicesOfAll_nil, Finset.union_empty, Option.toFinset_some]

theorem indicesOfAll_perm {ns ms : List (Node α)} (h : ns.Perm ms) :
    indicesOfAll ns = indicesOfAll ms := by
  induction h with
  | nil => rfl
  | cons n _ ih => rw [indicesOfAll_cons, indicesOfAll_cons, ih]
  | swap n m ns => simp only [indicesOfAll_cons, Finset.union_left_comm]
  | trans _ _ ih ih' => exact ih.trans ih'

theorem sizeOfAll_perm {ns ms : List (Node α)} (h : ns.Perm ms) : sizeOfAll ns = sizeOfAll ms := by
  induction h with
  | nil => rfl
  | cons n _ ih => rw [sizeOfAll, sizeOfAll, ih]
  | swap n m ns => simp only [sizeOfAll, Nat.add_left_comm]
  | trans _ _ ih ih' => exact ih.trans ih'

theorem toFinset_withIndex (found : List Int) (o : Option Int) :
    (withIndex found o).toFinset = found.toFinset ∪ o.toFinset := by
  ext i
  rw [List.mem_toFinset, mem_withIndex, Finset.mem_union, List.mem_toFinset, Option.mem_toFinset,
    Option.mem_def]

/-- No index is found twice. -/
theorem nodup_withIndex {found : List Int} (h : found.Nodup) (o : Option Int) :
    (withIndex found o).Nodup := by
  rcases o with _ | i
  · exact h
  · rw [withIndex]
    split_ifs with hi
    · exact h
    · rw [← List.concat_eq_append]
      exact List.Nodup.concat (fun hmem => hi (List.contains_iff_mem.2 hmem)) h

end Node

open Loop Node

/-! ### Any search with a stack -/

/-- **A search for inputs that is under way**: the inputs found, and the nodes on the stack. -/
structure Gathering (α : Type) where
  found : List Int
  stack : List (Node α)

namespace Gathering

/-- The search below a node, before its first turn. -/
def start (n : Node α) : Gathering α := ⟨[], [n]⟩

/-- **A turn of a search** takes the node on top, and puts its children there in any order. -/
inductive Turn : Gathering α → Node α → Gathering α → Prop
  | take {found : List Int} {stack pushed : List (Node α)} {n : Node α}
    (h : pushed.Perm n.children) :
    Turn ⟨found, n :: stack⟩ n ⟨withIndex found n.input?, pushed ++ stack⟩

variable {n : Node α} {g g' : Gathering α}

/-- **What is found in the end**: what has been found, and the inputs of all that is on the
stack. -/
def whole (g : Gathering α) : Finset Int := g.found.toFinset ∪ indicesOfAll g.stack

/-- **A turn changes nothing about what is found in the end.** -/
theorem Turn.whole_eq (h : Turn g n g') : g'.whole = g.whole := by
  cases h with
  | @take found stack pushed n hpushed =>
    calc (withIndex found n.input?).toFinset ∪ indicesOfAll (pushed ++ stack)
      _ = found.toFinset ∪ (n.input?.toFinset ∪ indicesOfAll n.children) ∪ indicesOfAll stack := by
        rw [toFinset_withIndex, indicesOfAll_append, indicesOfAll_perm hpushed]
        simp only [Finset.union_assoc]
      _ = found.toFinset ∪ indicesOfAll (n :: stack) := by
        rw [← indices_eq_union, indicesOfAll_cons, Finset.union_assoc]

/-- **A turn is one way down fewer to go.** -/
theorem Turn.size_eq (h : Turn g n g') : sizeOfAll g'.stack + 1 = sizeOfAll g.stack := by
  cases h with
  | @take found stack pushed n hpushed =>
    simp only [sizeOfAll_append, sizeOfAll, sizeOfAll_perm hpushed, Node.size_eq n]
    omega

theorem Turn.nodup (h : Turn g n g') (hg : g.found.Nodup) : g'.found.Nodup := by
  cases h with
  | take hpushed => exact nodup_withIndex hg _

/-- While there is a node on the stack there is a turn to be made. -/
theorem exists_turn (h : g.stack ≠ []) : ∃ n g', Turn g n g' := by
  rcases g with ⟨found, _ | ⟨n, stack⟩⟩
  · exact absurd rfl h
  · exact ⟨n, _, .take (List.Perm.refl _)⟩

/-- **The search that takes the last child first** is run to its end. -/
theorem exists_run (found : List Int) (stack : List (Node α)) :
    ∃ taken, Run Turn ⟨found, stack⟩ taken ⟨inputsFrom found stack, []⟩ := by
  induction found, stack using inputsFrom.induct with
  | case1 found =>
    rw [inputsFrom]
    exact ⟨[], .stay _⟩
  | case2 found n stack ih =>
    rw [inputsFrom]
    obtain ⟨taken, hrun⟩ := ih
    exact ⟨n :: taken, .go (.take (List.reverse_perm _)) hrun⟩

/-- **What a search has found when its stack is empty** are the inputs of the expression. -/
theorem found_of_run {taken : List (Node α)} (h : Run Turn (start n) taken g)
    (hstack : g.stack = []) : g.found.Nodup ∧ g.found.toFinset = n.indices := by
  have hnodup : g.found.Nodup :=
    h.keeps (P := fun g => g.found.Nodup) (fun _ _ _ hturn => hturn.nodup) List.nodup_nil
  have hwhole : g.whole = (start n).whole := h.unchanged fun _ _ _ hturn => hturn.whole_eq
  refine ⟨hnodup, ?_⟩
  simpa [whole, start, hstack] using hwhole

end Gathering

namespace Node

open Gathering

/-- **How the inputs of an expression are found.** The search comes to an end, and has found then,
each once, the inputs that the expression has by recursion. The same is true of any search that
puts the children of a node on the stack in an order of its own: the turns made at any time and
the ways down that are left add up to all ways down from the expression, there is another turn for
as long as there is a node on the stack, and after the last one the same inputs have been found. -/
theorem inputs_outcome (n : Node α) :
    (∃ taken, Run Turn (start n) taken ⟨n.inputs, []⟩) ∧
    n.inputs.Nodup ∧ n.inputs.toFinset = n.indices ∧
    ∀ taken g, Run Turn (start n) taken g →
      taken.length + sizeOfAll g.stack = n.size ∧
      (g.stack ≠ [] → ∃ m g', Turn g m g') ∧
      (g.stack = [] → g.found.Nodup ∧ g.found.toFinset = n.indices) := by
  obtain ⟨taken, hrun⟩ := exists_run [] [n]
  obtain ⟨hnodup, hindices⟩ := found_of_run hrun rfl
  refine ⟨⟨taken, hrun⟩, hnodup, hindices, fun taken g hg => ⟨?_, exists_turn, found_of_run hg⟩⟩
  exact hg.length_add fun _ _ _ hturn => hturn.size_eq

/-- **Two lifts in a row** have one input between them, and it takes fifteen turns to find it, as
the lift is gone through twice. -/
theorem inputs_outcome_lift :
    ∃ taken, Run Turn (start (frame (.product 7 [liftFrame, liftFrame]))) taken ⟨[-1], []⟩ ∧
      taken.length = 15 ∧ (frame (.product 7 [liftFrame, liftFrame])).indices = {-1} := by
  have hinputs : (frame (.product 7 [liftFrame, liftFrame])).inputs = [-1] := by
    simp [inputs, inputsFrom, withIndex, input?, children, liftFrame]
  obtain ⟨⟨taken, hrun⟩, -, hindices, hall⟩ :=
    inputs_outcome (frame (.product 7 [liftFrame, liftFrame]))
  rw [hinputs] at hrun hindices
  exact ⟨taken, hrun, (hall taken _ hrun).1, hindices.symm⟩

end Node

end Linkage
