import Linkage.Proofs.Listing
import Linkage.Proofs.Placement

/-!
# Nothing outside the vector is read

An index beyond either end of the input vector is taken to that end, and nobody is told. So it
has to be known of a robot that no expression it hands out (`Linkage.Robot.Offers`) has such an
index. Its expressions list the entries of its variables only, and the variables read as many
entries as there are of them (`Linkage.Robot.Offers.exists_input`).

An empty vector has no entry at all, and that does come out. What else can go wrong with an
expression has nothing to do with the length of the vector (`Linkage.Node.Blames`).
-/

namespace Linkage

variable {α : Type}

/-! ### What can go wrong -/

/-- **What can go wrong with an expression** at an input vector: a number is too large, there is
an expression without a value, or one of its inputs cannot be read. -/
def Node.Blames (n : Node α) (q : List α) (fault : Fault α) : Prop :=
  fault.kind = .overflow ∨ fault.kind = .undefined ∨
    ∃ i ∈ n.inputs, readInput q i = .error fault

variable {q : List α} {fault : Fault α}

/-- What can go wrong with a part can go wrong with the whole. -/
theorem Node.Blames.of_child {n m : Node α} (h : m.Blames q fault) (hm : m ∈ n.children) :
    n.Blames q fault := by
  rcases h with h | h | ⟨i, hi, h⟩
  · exact Or.inl h
  · exact Or.inr (Or.inl h)
  · exact Or.inr (Or.inr ⟨i, inputs_subset_of_child hm hi, h⟩)

section Evaluate

open Node

variable [Scalar α]

theorem Number.kind_of_toScalar {x : Number α} (h : x.toScalar = .error fault) :
    fault.kind = .overflow := by
  rw [toScalar] at h
  split at h
  · cases h
  · obtain rfl := Except.error.inj h
    rfl

theorem exists_of_evaluateScalars_eq_error {es : List (ScalarExpr α)}
    (h : evaluateScalars q es = .error fault) : ∃ e ∈ es, e.evaluate q = .error fault := by
  induction es with
  | nil => cases h
  | cons e es ih =>
    rw [evaluateScalars] at h
    rcases of_bind_eq_error h with h | ⟨x, -, h⟩
    · exact ⟨e, List.mem_cons_self, h⟩
    rcases of_bind_eq_error h with h | ⟨xs, -, h⟩
    · exact (ih h).imp fun e he => ⟨List.mem_cons_of_mem _ he.1, he.2⟩
    · cases h

theorem ScalarExpr.blames {e : ScalarExpr α} (h : e.evaluate q = .error fault) :
    (Node.scalar e).Blames q fault := by
  induction e using ScalarExpr.induction with
  | const id value => exact Or.inl (Number.kind_of_toScalar h)
  | input v => exact Or.inr (Or.inr ⟨v.index, mem_inputs_input.2 rfl, h⟩)
  | difference id first others ihfirst ihothers =>
    rw [ScalarExpr.evaluate] at h
    rcases of_bind_eq_error h with h | ⟨x, -, h⟩
    · exact (ihfirst h).of_child List.mem_cons_self
    rcases of_bind_eq_error h with h | ⟨xs, -, h⟩
    · obtain ⟨e, he, h⟩ := exists_of_evaluateScalars_eq_error h
      exact (ihothers e he h).of_child (List.mem_cons_of_mem _ (List.mem_map_of_mem he))
    · cases h
  | undefined id =>
    obtain rfl := Except.error.inj h
    exact Or.inr (Or.inl rfl)

theorem VectorExpr.blames {e : VectorExpr α} (h : e.evaluate q = .error fault) :
    (Node.vector e).Blames q fault := by
  induction e with
  | build id x y z =>
    rw [VectorExpr.evaluate] at h
    rcases of_bind_eq_error h with h | ⟨a, -, h⟩
    · exact (ScalarExpr.blames h).of_child (by simp [children])
    rcases of_bind_eq_error h with h | ⟨b, -, h⟩
    · exact (ScalarExpr.blames h).of_child (by simp [children])
    rcases of_bind_eq_error h with h | ⟨c, -, h⟩
    · exact (ScalarExpr.blames h).of_child (by simp [children])
    · cases h
  | scale id v s ih =>
    rw [VectorExpr.evaluate] at h
    rcases of_bind_eq_error h with h | ⟨a, -, h⟩
    · exact (ih h).of_child (by simp [children])
    rcases of_bind_eq_error h with h | ⟨b, -, h⟩
    · exact (ScalarExpr.blames h).of_child (by simp [children])
    · cases h
  | undefined id =>
    obtain rfl := Except.error.inj h
    exact Or.inr (Or.inl rfl)

theorem RotationExpr.blames {e : RotationExpr α} (h : e.evaluate q = .error fault) :
    (Node.rotation e).Blames q fault := by
  cases e with
  | quaternion id w x y z =>
    rw [RotationExpr.evaluate] at h
    split at h
    · -- Four numbers are asked for one after the other.
      rcases of_bind_eq_error h with h | ⟨a, -, h⟩
      · exact Or.inl (Number.kind_of_toScalar h)
      rcases of_bind_eq_error h with h | ⟨b, -, h⟩
      · exact Or.inl (Number.kind_of_toScalar h)
      rcases of_bind_eq_error h with h | ⟨c, -, h⟩
      · exact Or.inl (Number.kind_of_toScalar h)
      rcases of_bind_eq_error h with h | ⟨d, -, h⟩
      · exact Or.inl (Number.kind_of_toScalar h)
      · cases h
    · obtain rfl := Except.error.inj h
      exact Or.inl rfl
  | axisAngle id axis angle =>
    rw [RotationExpr.evaluate] at h
    rcases of_bind_eq_error h with h | ⟨a, -, h⟩
    · exact (VectorExpr.blames h).of_child (by simp [children])
    rcases of_bind_eq_error h with h | ⟨b, -, h⟩
    · exact (ScalarExpr.blames h).of_child (by simp [children])
    · cases h
  | undefined id =>
    obtain rfl := Except.error.inj h
    exact Or.inr (Or.inl rfl)

/-- Frames that fail fail at one of them, in the pass as it is by then. -/
theorem exists_of_evaluateFrames_eq_error {es : List (FrameExpr α)} {p : Pass α}
    (h : ((evaluateFrames q es).inPass p).1 = .error fault) :
    ∃ e ∈ es, ∃ p', ((e.evaluate q).inPass p').1 = .error fault := by
  induction es generalizing p with
  | nil => cases h
  | cons e es ih =>
    rw [inPass_cons] at h
    rcases hfirst : (e.evaluate q).inPass p with ⟨fault' | x, p'⟩
    · rw [hfirst] at h
      obtain rfl := Except.error.inj h
      exact ⟨e, List.mem_cons_self, p, congrArg Prod.fst hfirst⟩
    · rw [hfirst] at h
      exact (ih (of_map_eq_error h)).imp fun e he => ⟨List.mem_cons_of_mem _ he.1, he.2⟩

/-- **What goes wrong with a frame in a pass** can go wrong with it in any. -/
theorem FrameExpr.blames {e : FrameExpr α} {p : Pass α}
    (h : ((e.evaluate q).inPass p).1 = .error fault) : (Node.frame e).Blames q fault := by
  induction e using FrameExpr.induction generalizing p with
  | build id position r =>
    rw [inPass_build, FrameExpr.plain] at h
    rcases of_bind_eq_error h with h | ⟨a, -, h⟩
    · exact (VectorExpr.blames h).of_child (by simp [children])
    rcases of_bind_eq_error h with h | ⟨b, -, h⟩
    · exact (RotationExpr.blames h).of_child (by simp [children])
    · cases h
  | product id factors ih =>
    rw [inPass_product] at h
    obtain ⟨f, hf, p', h⟩ := exists_of_evaluateFrames_eq_error (of_map_eq_error h)
    exact (ih f hf h).of_child (List.mem_map_of_mem hf)
  | cached id f ih =>
    rcases hheld : p.held.lookup id with _ | x
    · rw [inPass_cached_of_not_held p hheld] at h
      rcases hf : (f.evaluate q).inPass (p.noting id) with ⟨fault' | y, p'⟩
      · rw [hf] at h
        refine (ih (p := p.noting id) ?_).of_child List.mem_cons_self
        rw [hf]
        exact h
      · rw [hf] at h
        cases h
    · rw [inPass_cached_of_held p hheld] at h
      cases h
  | counted id f ih =>
    rw [inPass_counted] at h
    exact (ih h).of_child List.mem_cons_self
  | undefined id =>
    obtain rfl := Except.error.inj h
    exact Or.inr (Or.inl rfl)

/-- **Whatever goes wrong with an expression** is one of the things that can. -/
theorem Node.blames {n : Node α} {p : Pass α} (h : ((n.evaluate q).inPass p).1 = .error fault) :
    n.Blames q fault := by
  cases n with
  | scalar e =>
    rw [Node.evaluate, inPass_map] at h
    exact ScalarExpr.blames (of_map_eq_error h)
  | vector e =>
    rw [Node.evaluate, inPass_map] at h
    exact VectorExpr.blames (of_map_eq_error h)
  | rotation e =>
    rw [Node.evaluate, inPass_map] at h
    exact RotationExpr.blames (of_map_eq_error h)
  | frame e =>
    rw [Node.evaluate, inPass_map] at h
    exact FrameExpr.blames (of_map_eq_error h)

/-- **Within the vector** the inputs of an expression are found, and what goes wrong with it is
not that the vector is too short. -/
theorem Node.kind_ne_outOfRange {n : Node α}
    (hn : ∀ i ∈ n.inputs, ∃ k < q.length, i = (k : Nat)) {p : Pass α}
    (h : ((n.evaluate q).inPass p).1 = .error fault) : fault.kind ≠ .outOfRange := by
  rcases blames h with h | h | ⟨i, hi, h⟩
  · rw [h]
    decide
  · rw [h]
    decide
  · obtain ⟨k, hk, rfl⟩ := hn i hi
    rw [readInput] at h
    split at h
    · obtain rfl := Except.error.inj h
      intro hkind
      cases hkind
    · rw [inputPlace_of_lt hk, List.getElem?_eq_getElem hk] at h
      cases h

end Evaluate

/-! ### What a robot hands out -/

namespace Robot

/-- **The expressions that a robot hands out**: the frames of its chains, and the parts of its
constraints. -/
inductive Offers (r : Robot α) : Node α → Prop
  | frame {root tip : String} {f : FrameExpr α} (hf : r.frame root tip = .ok f) :
    Offers r (.frame f)
  | weight {c : Controllable α} (hc : c ∈ r.controllables) : Offers r (.scalar c.weight)
  | lowerVelocity {c : Controllable α} (hc : c ∈ r.controllables) : Offers r (.scalar c.lower)
  | upperVelocity {c : Controllable α} (hc : c ∈ r.controllables) : Offers r (.scalar c.upper)
  | value {c : Hard α} (hc : c ∈ r.hard) : Offers r (.scalar c.value)
  | lower {c : Hard α} (hc : c ∈ r.hard) : Offers r (.scalar c.lower)
  | upper {c : Hard α} (hc : c ∈ r.hard) : Offers r (.scalar c.upper)

theorem Aligned.mem_chains_of_frame {tree : Tree α} {root : String} {asked : List ChainKey}
    {r : Robot α} (hr : Aligned tree root asked r) {a b : String} {f : FrameExpr α}
    (hf : r.frame a b = .ok f) : (a, b) ∈ r.chains := by
  rw [frame, FrameTable.get] at hf
  rw [← hr.keys_eq, ← FrameTable.contains_iff_mem_keys, FrameTable.contains]
  split at hf
  · rename_i hlook
    rw [hlook]
    rfl
  · cases hf

variable [Scalar α] {name root : String} {joints : List (Joint α)} {extra : List String}
  {tree : Tree α} {requests : List ChainRequest} {weights thresholds : Settings α} {r : Robot α}

/-- **What a robot hands out lists entries that there are.** -/
theorem Offers.exists_input {n : Node α} (hn : r.Offers n) (htree : tree.IsRooted)
    (h : compile tree root (.ok requests) weights thresholds = .ok r) {i : Int}
    (hi : i ∈ n.inputs) : ∃ k < r.size, i = (k : Nat) := by
  obtain ⟨asked, hserve⟩ := exists_serve_of_compile h
  obtain ⟨_, -, hr⟩ := aligned_of_compile h
  have hgrounded := grounded_of_compile h
  have hvariable : ∀ {joint v}, r.joint joint = .ok v → v.index = i →
      ∃ k < r.size, i = (k : Nat) := by
    rintro joint v hv rfl
    exact hserve.exists_index_eq (joint_eq_ok_iff.1 hv)
  have hcontrollable : ∀ {c}, c ∈ r.controllables → c ∈ r.controllable := fun hc =>
    hr.controllables_eq ▸ hc
  cases hn with
  | @frame a b f hf =>
    obtain ⟨g, js, hg, -, -, hinputs⟩ :=
      (traced_of_compile h).exists_frame_inputs htree (hr.mem_chains_of_frame hf)
    obtain rfl := Except.ok.inj (hf.symm.trans hg)
    obtain ⟨j, -, -, v, hv, hindex⟩ := (hinputs i).1 hi
    exact hvariable (joint_eq_ok_iff.2 hv) hindex
  | weight hc => exact absurd hi (hgrounded.inputs_of_controllable (hcontrollable hc) i).1
  | lowerVelocity hc => exact absurd hi (hgrounded.inputs_of_controllable (hcontrollable hc) i).2.1
  | upperVelocity hc => exact absurd hi (hgrounded.inputs_of_controllable (hcontrollable hc) i).2.2
  | value hc =>
    obtain ⟨v, hv, hinputs⟩ := hgrounded.mem_inputs_of_hard hc
    exact hvariable hv ((hinputs i).1.1 hi)
  | lower hc =>
    obtain ⟨v, hv, hinputs⟩ := hgrounded.mem_inputs_of_hard hc
    exact hvariable hv ((hinputs i).2.1.1 hi)
  | upper hc =>
    obtain ⟨v, hv, hinputs⟩ := hgrounded.mem_inputs_of_hard hc
    exact hvariable hv ((hinputs i).2.2.1 hi)

/-- **The inputs of a robot are those of its joints.** The frame of a chain lists the entries of
the joints that move on it, and nothing else. Whatever a robot hands out lists entries of its own
vector only. In a vector of its size each of them is read in the very place that is listed, and
nothing that goes wrong is that the vector is too short. -/
theorem compile_inputs (htree : Tree.ofJoints name joints extra = .ok tree)
    (h : compile tree root (.ok requests) weights thresholds = .ok r) :
    (∀ key ∈ r.chains, ∃ f js, r.frame key.1 key.2 = .ok f ∧ Leads joints key.1 js key.2 ∧
      (∀ j ∈ js, j.isMoveable = true → ∃ v, r.joint j.name = .ok v) ∧
      ∀ i, i ∈ (Node.frame f).inputs ↔
        ∃ j ∈ js, j.isMoveable = true ∧ ∃ v, r.joint j.name = .ok v ∧ v.index = i) ∧
    ∀ n, r.Offers n → (∀ i ∈ n.inputs, 0 ≤ i ∧ i < r.size) ∧
      ∀ q : List α, q.length = r.size →
        (∀ i ∈ n.inputs, (inputPlace q.length i : Int) = i) ∧
        ∀ p fault, ((n.evaluate q).inPass p).1 = .error fault → fault.kind ≠ .outOfRange := by
  have hrooted := Tree.isRooted_of_ofJoints htree
  constructor
  · intro key hkey
    obtain ⟨f, js, hf, hjs, hframed, hinputs⟩ :=
      (traced_of_compile h).exists_frame_inputs hrooted hkey
    obtain ⟨top, -, -, rfl⟩ := Tree.ofJoints_eq_ok_iff.1 htree
    refine ⟨f, js, hf, hjs, fun j hj hmove => ?_, fun i => ?_⟩
    · obtain ⟨v, hv⟩ := (hframed j hj).input hmove
      exact ⟨v, joint_eq_ok_iff.2 hv⟩
    · simp only [joint_eq_ok_iff]
      exact hinputs i
  · intro n hn
    have hwithin : ∀ i ∈ n.inputs, ∃ k < r.size, i = (k : Nat) := fun i hi =>
      hn.exists_input hrooted h hi
    refine ⟨fun i hi => ?_, fun q hq => ⟨fun i hi => ?_, fun p fault herror => ?_⟩⟩
    · obtain ⟨k, hk, rfl⟩ := hwithin i hi
      omega
    · obtain ⟨k, hk, rfl⟩ := hwithin i hi
      rw [inputPlace_of_lt (hq ▸ hk)]
    · exact Node.kind_ne_outOfRange (hq ▸ hwithin) herror

/-- **The hook of the crane** depends on its slide and its slew, and can be had of two entries. -/
theorem compile_inputs_crane :
    ∃ r f, compile craneTree "rail" (.ok [.ends "cart" "hook", .tip "hook", .tip "cart"])
        [("slide", .int 1), ("slew", .int 1)] [] = .ok r ∧ r.frame "rail" "hook" = .ok f ∧
      (∀ i, i ∈ (Node.frame f).inputs ↔
        ∃ j ∈ craneJoints, j.isMoveable = true ∧ ∃ v, r.joint j.name = .ok v ∧ v.index = i) ∧
      (∀ i ∈ (Node.frame f).inputs, 0 ≤ i ∧ i < 2) ∧
      ∀ p fault, (((Node.frame f).evaluate [2, 3]).inPass p).1 = .error fault →
        fault.kind ≠ .outOfRange := by
  obtain ⟨r, hok, hchains, hsize⟩ := exists_crane
  have hkey : ("rail", "hook") ∈ r.chains := by
    rw [hchains]
    decide
  obtain ⟨hframes, hoffers⟩ := compile_inputs ofJoints_crane hok
  obtain ⟨f, js, hf, hjs, -, hinputs⟩ := hframes _ hkey
  obtain ⟨hrange, hread⟩ := hoffers _ (.frame hf)
  obtain ⟨-, hkind⟩ := hread [2, 3] hsize.symm
  obtain rfl := eq_of_leads_crane hjs
  rw [hsize] at hrange
  exact ⟨r, f, hok, hf, hinputs, hrange, hkind⟩

end Robot

end Linkage
