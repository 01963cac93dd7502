import Linkage.Expr.Inputs
import Linkage.Proofs.SharedOnce

/-!
# What a value depends on

The inputs that an expression lists are the only entries of the input vector that its value
depends on. They are found by going through the nodes below it, all of them
(`Linkage.Node.mem_inputs`), while the value is computed by going through what the evaluation
asks for. So what has to be known is that the evaluation asks for nothing that is not below.

Two vectors that agree on what an expression lists (`Linkage.Node.Alike`) are read alike by it
(`Linkage.Node.ReadsAlike`), and by each of its parts. The rest is an induction on the expression,
sort by sort. The two evaluations go through the same steps in the same pass, so not only their
values are equal but all that they do: what a pass holds may come from anywhere, and it is asked
of no pass that it holds values.

* `Linkage.FrameExpr.evaluate_congr` – frames, by induction;
* `Linkage.Node.evaluate_eq_of_agree` – expressions of any sort.
-/

namespace Linkage

variable {α : Type}

/-! ### The inputs below a node -/

namespace Node

theorem mem_withIndex {found : List Int} {o : Option Int} {i : Int} :
    i ∈ withIndex found o ↔ i ∈ found ∨ o = some i := by
  cases o with
  | none => simp [withIndex]
  | some k =>
    rw [withIndex]
    split
    · rename_i hk
      have hk : k ∈ found := List.contains_iff_mem.1 hk
      constructor
      · exact Or.inl
      · rintro (hi | hi)
        · exact hi
        · rwa [← Option.some.inj hi]
    · rw [List.mem_append, List.mem_singleton, Option.some.injEq, eq_comm (a := i)]

/-- **What is met on the ways down from a node** is the node itself, and what is met on the ways
down from what it is computed from. -/
theorem exists_meets_input_iff {n : Node α} {i : Int} :
    (∃ m, n.Meets m ∧ m.input? = some i) ↔
      n.input? = some i ∨ ∃ k ∈ n.children, ∃ m, k.Meets m ∧ m.input? = some i := by
  constructor
  · rintro ⟨m, hm, hi⟩
    rcases Relation.ReflTransGen.cases_head hm with rfl | ⟨k, hk, hm⟩
    · exact Or.inl hi
    · exact Or.inr ⟨k, hk, m, hm, hi⟩
  · rintro (hi | ⟨k, hk, m, hm, hi⟩)
    · exact ⟨n, .refl, hi⟩
    · exact ⟨m, .head hk hm, hi⟩

/-- **What is found from a stack** is what was found before and what is met on a way down from
the stack. By induction on the steps of the search. -/
theorem mem_inputsFrom {found : List Int} {stack : List (Node α)} {i : Int} :
    i ∈ inputsFrom found stack ↔ i ∈ found ∨ ∃ n ∈ stack, ∃ m, n.Meets m ∧ m.input? = some i := by
  induction found, stack using inputsFrom.induct with
  | case1 found => simp [inputsFrom]
  | case2 found n stack ih =>
    rw [inputsFrom, ih, mem_withIndex, List.exists_mem_cons_iff, exists_meets_input_iff (n := n)]
    simp only [List.mem_append, List.mem_reverse, or_and_right, exists_or, or_assoc]

/-- **The inputs of an expression** are those met on the ways down from it. -/
theorem mem_inputs {n : Node α} {i : Int} :
    i ∈ n.inputs ↔ ∃ m, n.Meets m ∧ m.input? = some i := by
  rw [inputs, mem_inputsFrom]
  simp

/-- **The inputs of an expression are its own and those of its parts.** -/
theorem mem_inputs_iff {n : Node α} {i : Int} :
    i ∈ n.inputs ↔ n.input? = some i ∨ ∃ m ∈ n.children, i ∈ m.inputs := by
  simp only [mem_inputs]
  exact exists_meets_input_iff

theorem inputs_subset_of_child {n m : Node α} (h : m ∈ n.children) : m.inputs ⊆ n.inputs := by
  intro i hi
  obtain ⟨k, hk, hinput⟩ := mem_inputs.1 hi
  exact mem_inputs.2 ⟨k, .head h hk, hinput⟩

end Node

/-! ### Vectors that agree -/

/-- **Where an index is read**: counted from the end if it is negative, and then taken to the
nearest place that there is. -/
theorem inputPlace_eq (length : Nat) (index : Int) :
    (inputPlace length index : Int) =
      max 0 (min (if index < 0 then index + length else index) (length - 1)) := by
  rw [inputPlace]
  split <;> omega

namespace Node

/-- **Vectors that are alike for an expression**: of one length, and with the same entry wherever
an input of the expression is read. -/
structure Alike (n : Node α) (q q' : List α) : Prop where
  length_eq : q.length = q'.length
  entry_eq : ∀ i ∈ n.inputs, q[inputPlace q.length i]? = q'[inputPlace q.length i]?

variable {q q' : List α}

/-- **Vectors that an expression reads alike**: each of its inputs reads the same in both, an entry
or a fault. -/
def ReadsAlike (n : Node α) (q q' : List α) : Prop := ∀ i ∈ n.inputs, readInput q i = readInput q' i

/-- What an expression reads alike its parts read alike. -/
theorem ReadsAlike.child {n m : Node α} (h : n.ReadsAlike q q') (hm : m ∈ n.children) :
    m.ReadsAlike q q' :=
  fun i hi => h i (inputs_subset_of_child hm hi)

theorem Alike.readsAlike {n : Node α} (h : n.Alike q q') : n.ReadsAlike q q' := fun i hi => by
  rw [readInput, readInput, ← h.length_eq, h.entry_eq i hi]

end Node

open Node

variable {q q' : List α}

/-- **An input reads nothing else.** -/
theorem readInput_congr {v : Variable} (h : (Node.scalar (.input v)).ReadsAlike q q') :
    readInput q v.index = readInput q' v.index :=
  h v.index (mem_inputs.2 ⟨_, .refl, rfl⟩)

/-! ### Sort by sort -/

/-- **Induction on a number expression**: a difference may use what holds of its operands. -/
@[elab_as_elim]
theorem ScalarExpr.induction {motive : ScalarExpr α → Prop}
    (const : ∀ id value, motive (.const id value)) (input : ∀ v, motive (.input v))
    (difference : ∀ id first others, motive first → (∀ e ∈ others, motive e) →
      motive (.difference id first others))
    (undefined : ∀ id, motive (.undefined id)) (e : ScalarExpr α) : motive e :=
  @ScalarExpr.rec α motive (fun es => ∀ e ∈ es, motive e) const input difference undefined
    (fun _ he => absurd he List.not_mem_nil) (fun _ _ he hes => List.forall_mem_cons.2 ⟨he, hes⟩) e

variable [Scalar α]

theorem evaluateScalars_congr {es : List (ScalarExpr α)}
    (h : ∀ e ∈ es, e.evaluate q = e.evaluate q') :
    evaluateScalars q es = evaluateScalars q' es := by
  induction es with
  | nil => rfl
  | cons e es ih =>
    rw [List.forall_mem_cons] at h
    rw [evaluateScalars, evaluateScalars, h.1, ih h.2]

theorem ScalarExpr.evaluate_congr {e : ScalarExpr α} (h : (Node.scalar e).ReadsAlike q q') :
    e.evaluate q = e.evaluate q' := by
  induction e using ScalarExpr.induction with
  | const id value => rfl
  | input v => exact readInput_congr h
  | difference id first others ihfirst ihothers =>
    have hothers : ∀ e ∈ others, e.evaluate q = e.evaluate q' := fun e he =>
      ihothers e he (h.child (List.mem_cons_of_mem _ (List.mem_map_of_mem he)))
    rw [ScalarExpr.evaluate, ScalarExpr.evaluate, ihfirst (h.child List.mem_cons_self),
      evaluateScalars_congr hothers]
  | undefined id => rfl

theorem VectorExpr.evaluate_congr {e : VectorExpr α} (h : (Node.vector e).ReadsAlike q q') :
    e.evaluate q = e.evaluate q' := by
  induction e with
  | build id x y z =>
    have hx : x.evaluate q = x.evaluate q' := x.evaluate_congr (h.child (by simp [children]))
    have hy : y.evaluate q = y.evaluate q' := y.evaluate_congr (h.child (by simp [children]))
    have hz : z.evaluate q = z.evaluate q' := z.evaluate_congr (h.child (by simp [children]))
    rw [VectorExpr.evaluate, VectorExpr.evaluate, hx, hy, hz]
  | scale id v s ih =>
    have hv : v.evaluate q = v.evaluate q' := ih (h.child (by simp [children]))
    have hs : s.evaluate q = s.evaluate q' := s.evaluate_congr (h.child (by simp [children]))
    rw [VectorExpr.evaluate, VectorExpr.evaluate, hv, hs]
  | undefined id => rfl

theorem RotationExpr.evaluate_congr {e : RotationExpr α} (h : (Node.rotation e).ReadsAlike q q') :
    e.evaluate q = e.evaluate q' := by
  cases e with
  | quaternion id w x y z => rfl
  | axisAngle id axis angle =>
    have haxis : axis.evaluate q = axis.evaluate q' :=
      axis.evaluate_congr (h.child (by simp [children]))
    have hangle : angle.evaluate q = angle.evaluate q' :=
      angle.evaluate_congr (h.child (by simp [children]))
    rw [RotationExpr.evaluate, RotationExpr.evaluate, haxis, hangle]
  | undefined id => rfl

theorem evaluateFrames_congr {es : List (FrameExpr α)}
    (h : ∀ e ∈ es, e.evaluate q = e.evaluate q') : evaluateFrames q es = evaluateFrames q' es := by
  induction es with
  | nil => rfl
  | cons e es ih =>
    rw [List.forall_mem_cons] at h
    rw [evaluateFrames, evaluateFrames, h.1, ih h.2]

/-- **Frames at vectors that are read alike** are computed alike, whatever the pass holds. -/
theorem FrameExpr.evaluate_congr {e : FrameExpr α} (h : (Node.frame e).ReadsAlike q q') :
    e.evaluate q = e.evaluate q' := by
  induction e using FrameExpr.induction with
  | build id position r =>
    have hposition : position.evaluate q = position.evaluate q' :=
      position.evaluate_congr (h.child (by simp [children]))
    have hr : r.evaluate q = r.evaluate q' := r.evaluate_congr (h.child (by simp [children]))
    rw [FrameExpr.evaluate, FrameExpr.evaluate, hposition, hr]
  | product id factors ih =>
    have hfactors : ∀ f ∈ factors, f.evaluate q = f.evaluate q' := fun f hf =>
      ih f hf (h.child (List.mem_map_of_mem hf))
    rw [FrameExpr.evaluate, FrameExpr.evaluate, evaluateFrames_congr hfactors]
  | cached id f ih =>
    rw [FrameExpr.evaluate, FrameExpr.evaluate, ih (h.child List.mem_cons_self)]
  | counted id f ih =>
    rw [FrameExpr.evaluate, FrameExpr.evaluate, ih (h.child List.mem_cons_self)]
  | undefined id => rfl

namespace Node

/-- **An expression comes to the same at vectors that it reads alike**, be they of different
lengths. -/
theorem evaluate_eq_of_readsAlike {n : Node α} (h : n.ReadsAlike q q') :
    n.evaluate q = n.evaluate q' := by
  cases n with
  | scalar e => rw [evaluate, evaluate, e.evaluate_congr h]
  | vector e => rw [evaluate, evaluate, e.evaluate_congr h]
  | rotation e => rw [evaluate, evaluate, e.evaluate_congr h]
  | frame e => rw [evaluate, evaluate, e.evaluate_congr h]

theorem evaluate_congr {n : Node α} (h : n.Alike q q') : n.evaluate q = n.evaluate q' :=
  evaluate_eq_of_readsAlike h.readsAlike

/-- **What an expression does not list makes no difference to it.** At two vectors of one length
that have the same entry wherever an input of the expression is read, counted from the end if it
is negative and taken to the nearest place that there is, it comes to the same value or the same
fault, and leaves the same pass. An expression that lists no input comes to the same at all
vectors of one length. -/
theorem evaluate_eq_of_agree (n : Node α) :
    (∀ q q' : List α, q.length = q'.length →
      (∀ i ∈ n.inputs, ∀ k : Nat,
        (k : Int) = max 0 (min (if i < 0 then i + q.length else i) (q.length - 1)) →
          q[k]? = q'[k]?) →
      ∀ p : Pass α, (n.evaluate q).inPass p = (n.evaluate q').inPass p) ∧
    (n.inputs = [] → ∀ q q' : List α, q.length = q'.length →
      ∀ p : Pass α, (n.evaluate q).inPass p = (n.evaluate q').inPass p) := by
  have hagree : ∀ q q' : List α, n.Alike q q' → ∀ p : Pass α,
      (n.evaluate q).inPass p = (n.evaluate q').inPass p := fun q q' h p => by
    rw [evaluate_congr h]
  refine ⟨fun q q' hlen h => hagree q q' ⟨hlen, fun i hi => ?_⟩,
    fun hnil q q' hlen => hagree q q' ⟨hlen, fun i hi => ?_⟩⟩
  · exact h i hi _ (inputPlace_eq q.length i)
  · rw [hnil] at hi
    exact absurd hi List.not_mem_nil

/-- A lift: a cached frame that goes up by the last entry of the vector. -/
def liftFrame : FrameExpr Float :=
  .cached 6 (.build 5 (.build 3 (.const 0 (.real 0)) (.const 1 (.real 0)) (.input ⟨2, -1, "lift"⟩))
    (.quaternion 4 (.real 1) (.real 0) (.real 0) (.real 0)))

/-- **Two lifts in a row** do not depend on what comes before the last entry. -/
theorem evaluate_eq_of_agree_lift :
    ((frame (.product 7 [liftFrame, liftFrame])).evaluate [1, 2, 3]).inPass .new =
      ((frame (.product 7 [liftFrame, liftFrame])).evaluate [4, 5, 3]).inPass .new := by
  have hinputs : (frame (.product 7 [liftFrame, liftFrame])).inputs = [-1] := by
    simp [inputs, inputsFrom, withIndex, input?, children, liftFrame]
  refine (evaluate_eq_of_agree (frame (.product 7 [liftFrame, liftFrame]))).1 [1, 2, 3] [4, 5, 3]
    (by simp) (fun i hi k hk => ?_) .new
  rw [hinputs, List.mem_singleton] at hi
  have hplace : (k : Int) = 2 := by
    rw [hi] at hk
    simpa using hk
  obtain rfl : k = 2 := by omega
  simp

end Node

end Linkage
