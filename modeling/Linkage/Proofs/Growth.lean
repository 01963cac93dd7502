import Linkage.Proofs.InputRange

/-!
# With more chains

A robot is made by adding chain after chain, and all that a chain does is to add something to the
end of what the robot keeps (`Linkage.Robot.Grows`). No later chain takes a joint's entry away, or
touches a frame or a constraint that has been built. So a robot with more chains begins with all
that it would have with fewer, and as what it began with lists no entries but those of its time,
it comes to the same at the vector of its time, which is the beginning of the longer one
(`Linkage.Robot.Offers.evaluate_take`).

A chain that has been asked for before adds nothing at all.
-/

namespace Linkage

variable {α : Type}

namespace Robot

/-! ### What is added -/

/-- **A robot that has grown out of another**: all that the other keeps it keeps as well, and what
it has more comes after that. -/
structure Grows (r r' : Robot α) : Prop where
  inputs : r.inputs.list <+: r'.inputs.list
  frames : r.frames.entries <+: r'.frames.entries
  chains : r.chains <+: r'.chains
  controllable : r.controllable <+: r'.controllable
  hard : r.hard <+: r'.hard

variable {r r' r'' : Robot α}

theorem Grows.refl (r : Robot α) : Grows r r :=
  ⟨List.prefix_rfl, List.prefix_rfl, List.prefix_rfl, List.prefix_rfl, List.prefix_rfl⟩

theorem Grows.trans (h : Grows r r') (h' : Grows r' r'') : Grows r r'' where
  inputs := h.inputs.trans h'.inputs
  frames := h.frames.trans h'.frames
  chains := h.chains.trans h'.chains
  controllable := h.controllable.trans h'.controllable
  hard := h.hard.trans h'.hard

/-- A line written adds nothing else. -/
theorem grows_write (r : Robot α) (line : LogLine) : Grows r (r.write line) :=
  ⟨List.prefix_rfl, List.prefix_rfl, List.prefix_rfl, List.prefix_rfl, List.prefix_rfl⟩

theorem Grows.jointNames (h : Grows r r') : r.jointNames <+: r'.jointNames :=
  h.inputs.map Variable.name

theorem Grows.size_le (h : Grows r r') : r.size ≤ r'.size := h.inputs.length_le

/-- A chain that has a frame keeps it. -/
theorem Grows.frame_eq (h : Grows r r') {a b : String} {f : FrameExpr α}
    (hf : r.frame a b = .ok f) : r'.frame a b = .ok f := by
  obtain ⟨entries, hentries⟩ := h.frames
  have hget : FrameTable.get ⟨r.frames.entries ++ entries⟩ (a, b) = .ok f :=
    FrameTable.get_append hf entries
  rw [hentries] at hget
  exact hget

variable [Scalar α]

/-- **The constraints of one joint more** are added. -/
theorem grows_constrain {name : String} (hok : r.constrain name = .ok r') : Grows r r' := by
  rcases constrain_eq_ok hok with ⟨-, rfl⟩ | ⟨-, _, _, c, b, _, _, -, -, -, -, rfl⟩
  · exact .refl r'
  · exact ⟨List.prefix_rfl, List.prefix_rfl, List.prefix_rfl, List.prefix_append _ _,
      List.prefix_append _ _⟩

/-- **One chain more** is added. -/
theorem grows_addChain {key : ChainKey} (hok : r.addChain key = .ok r') : Grows r r' := by
  rcases addChain_eq_ok hok with ⟨-, rfl⟩ |
    ⟨-, moving, _, vs, n, log, f, m, r₂, -, -, hassign, -, hconstrain, rfl⟩
  · exact grows_write r (.repeated key)
  have hinputs := inputs_prefix_assignAll r moving
  rw [hassign] at hinputs
  have hbuilt : Grows r { r with
      inputs := vs, nextId := m, log := log, frames := ⟨r.frames.entries ++ [(key, f)]⟩,
      chains := r.chains ++ [key] } :=
    ⟨hinputs, List.prefix_append _ _, List.prefix_append _ _, List.prefix_rfl, List.prefix_rfl⟩
  have hconstrained : Grows r r₂ :=
    constrainAll_induction (P := Grows r) (fun hr hstep => hr.trans (grows_constrain hstep))
      hbuilt hconstrain
  exact hconstrained.trans (grows_write r₂ _)

/-- **Any number of chains more** are added. -/
theorem grows_addChains {requests : List ChainRequest} (hok : r.addChains requests = .ok r') :
    Grows r r' :=
  addChains_induction (P := Grows r) (fun hr hstep => hr.trans (grows_addChain hstep)) (.refl r) hok

/-- Chains after chains are added after them. -/
theorem addChains_append (r : Robot α) (cs ds : List ChainRequest) :
    r.addChains (cs ++ ds) = r.addChains cs >>= fun r' => r'.addChains ds := by
  induction cs generalizing r with
  | nil => rfl
  | cons c cs ih => simp only [List.cons_append, addChains, ih, bind_assoc]

/-- **Chains that a robot has already** add nothing but lines. -/
theorem addChains_of_contains {requests : List ChainRequest}
    (h : ∀ d ∈ requests, ∃ key, (d.key r.root : Except (Fault α) ChainKey) = .ok key ∧
      r.frames.contains key = true)
    (hok : r.addChains requests = .ok r') : ∃ log, r' = { r with log := log } := by
  induction requests generalizing r with
  | nil =>
    obtain rfl := Except.ok.inj hok
    exact ⟨r.log, rfl⟩
  | cons d requests ih =>
    rw [List.forall_mem_cons] at h
    obtain ⟨⟨key, hkey, hhad⟩, hothers⟩ := h
    rw [addChains, hkey] at hok
    change (r.addChain key >>= _) = _ at hok
    rw [addChain, if_pos hhad] at hok
    exact ih (r := r.write (.repeated key)) hothers hok

/-! ### What it comes to -/

section Compile

variable {name root : String} {joints : List (Joint α)} {extra : List String} {tree : Tree α}
  {requests cs ds : List ChainRequest} {weights thresholds : Settings α}

/-- **What a robot hands out comes to the same at a longer vector**, of which its own is the
beginning. -/
theorem Offers.evaluate_take {n : Node α} (hn : r.Offers n) (htree : tree.IsRooted)
    (h : compile tree root (.ok requests) weights thresholds = .ok r) {q : List α}
    (hq : r.size ≤ q.length) : n.evaluate (q.take r.size) = n.evaluate q := by
  refine Node.evaluate_eq_of_readsAlike fun i hi => ?_
  obtain ⟨k, hk, rfl⟩ := hn.exists_input htree h hi
  exact readInput_take hk hq

/-- **More chains change nothing that fewer had.** Where a robot can be made with chains `cs` and
then `ds`, it can be made with `cs` alone. Its chains, its joints and its constraints are the first
that it has with more, its frames are among those, and all of it comes to the same at the first
entries of an input vector. If each of `ds` is a chain of `cs`, no more than lines are written for
them. -/
theorem compile_append (htree : Tree.ofJoints name joints extra = .ok tree)
    (h : compile tree root (.ok (cs ++ ds)) weights thresholds = .ok r') :
    ∃ r, compile tree root (.ok cs) weights thresholds = .ok r ∧
      r.chains <+: r'.chains ∧ r.jointNames <+: r'.jointNames ∧
      r.controllables <+: r'.controllables ∧ r.hard <+: r'.hard ∧
      (∀ key ∈ r.chains, ∃ f, r.frame key.1 key.2 = .ok f ∧ r'.frame key.1 key.2 = .ok f) ∧
      (∀ q : List α, q.length = r'.size → ∀ n, r.Offers n →
        ∀ p, (n.evaluate (q.take r.size)).inPass p = (n.evaluate q).inPass p) ∧
      ((∀ d ∈ ds, ∃ c ∈ cs, (c.key root : Except (Fault α) ChainKey) = d.key root) →
        ∃ log, r' = { r with log := log }) := by
  have hrooted := Tree.isRooted_of_ofJoints htree
  obtain ⟨above, r₂, line, habove, hall, rfl⟩ := compile_eq_ok h
  rw [addChains_append] at hall
  obtain ⟨r₁, hcs, hds⟩ := exists_of_bind_eq_ok hall
  have hok := compile_of_addChains habove hcs
  have hgrows : Grows r₁ r₂ := grows_addChains hds
  obtain ⟨keys, hkeys, hr⟩ := aligned_of_compile hok
  obtain ⟨_, -, hr'⟩ := aligned_of_compile h
  refine ⟨_, hok, hgrows.chains, hgrows.jointNames, ?_, hgrows.hard, fun key hkey => ?_,
    fun q hq n hn p => ?_, fun hsame => ?_⟩
  · rw [hr.controllables_eq, hr'.controllables_eq]
    exact hgrows.controllable
  · obtain ⟨f, -, hf, -⟩ := exists_frame_of_compile htree hok hkey
    exact ⟨f, hf, hgrows.frame_eq hf⟩
  · have hsize : r₁.size ≤ q.length := hq ▸ hgrows.size_le
    rw [hn.evaluate_take hrooted hok hsize]
  · -- The chains of `cs` have their frames, and one that has is not worked out again.
    have hhad : ∀ d ∈ ds, ∃ key, (d.key r₁.root : Except (Fault α) ChainKey) = .ok key ∧
        r₁.frames.contains key = true := by
      intro d hd
      obtain ⟨c, hc, hkey⟩ := hsame d hd
      obtain ⟨key, hmem, hckey⟩ := exists_of_mem_left hkeys hc
      rw [show r₁.root = root from hr.root_eq]
      refine ⟨key, hkey.symm.trans hckey, ?_⟩
      rw [FrameTable.contains_iff_mem_keys, show r₁.frames.keys = r₁.chains from hr.keys_eq,
        show r₁.chains = keys.eraseDups from hr.chains_eq, List.mem_eraseDups]
      exact hmem
    obtain ⟨log, rfl⟩ := addChains_of_contains hhad hds
    exact ⟨_, rfl⟩

/-- **The crane without its shortest chain** is the beginning of the crane. -/
theorem compile_append_crane :
    ∃ r r', compile craneTree "rail" (.ok [.ends "cart" "hook", .tip "hook"])
        [("slide", .int 1), ("slew", .int 1)] [] = .ok r ∧
      compile craneTree "rail" (.ok [.ends "cart" "hook", .tip "hook", .tip "cart"])
        [("slide", .int 1), ("slew", .int 1)] [] = .ok r' ∧
      r.jointNames <+: r'.jointNames ∧ r.controllables <+: r'.controllables ∧ r.hard <+: r'.hard ∧
      ∀ n, r.Offers n → ∀ p,
        (n.evaluate ([2, 3].take r.size)).inPass p = (n.evaluate [2, 3]).inPass p := by
  obtain ⟨r', hok, -, hsize⟩ := exists_crane
  have hall : compile craneTree "rail" (.ok ([.ends "cart" "hook", .tip "hook"] ++ [.tip "cart"]))
      [("slide", .int 1), ("slew", .int 1)] [] = .ok r' := hok
  obtain ⟨r, hok', -, hnames, hcontrollable, hhard, -, hvalue, -⟩ :=
    compile_append ofJoints_crane hall
  exact ⟨r, r', hok', hok, hnames, hcontrollable, hhard, hvalue [2, 3] hsize.symm⟩

end Compile

end Robot

end Linkage
