import Linkage.Proofs.Exact
import Linkage.Proofs.Reading

/-!
# Where the links of a robot are

The frame of a chain says where its tip is, seen from its root. Over the real numbers it is the
product of matrices that belong to the joints on the path of the chain and to nothing else: for
each joint the one that places it, and the one of its motion by the entry of the input vector
that is the joint's own (`Linkage.Robot.compile_placement`).

Which entry that is has been settled while the robot was made, and is the same on every chain.
So is what a joint contributes, and where two chains meet end to end the frame of the chain over
both is the product of theirs (`Linkage.Robot.compile_composition`). That is true of the faults
as well.
-/

namespace Linkage

namespace Robot

variable {name : String} {joints : List (Joint ℝ)} {extra : List String} {tree : Tree ℝ}
  {root : String} {requests : List ChainRequest} {weights thresholds : Settings ℝ} {r : Robot ℝ}

/-- **The frame of a chain is the product of its joints' matrices**, in the order in which they
lead from its root to its tip: where each is placed, and how it has moved by the entry of the
input vector that is its own. The vector has as many entries as joints have inputs. What words
can hold is no matter of exact arithmetic, so a quaternion is not to have integers that no word
holds, nor a vector more entries than a word can count. -/
theorem compile_placement (htree : Tree.ofJoints name joints extra = .ok tree)
    (h : compile tree root (.ok requests) weights thresholds = .ok r)
    (hrow : ∀ j ∈ joints, Number.areRow j.origin.rotation = true) {q : List ℝ}
    (hq : q.length = r.size) (hword : fitsWord q.length = true) {key : ChainKey}
    (hkey : key ∈ r.chains) :
    ∃ f js m, ∃ x : String → ℝ, r.frame key.1 key.2 = .ok f ∧ Leads joints key.1 js key.2 ∧
      (∀ j ∈ js, j.IsFramed r.inputs ∧ (j.isMoveable = true →
        ∃ v, ∃ i : Nat, r.joint j.name = .ok v ∧ v.index = i ∧ q[i]? = some (x j.name))) ∧
      ((f.evaluate q).inPass .new).1 = .ok m ∧
      m.toMatrix = (js.map fun j => j.placement * j.displacement (x j.name)).prod := by
  obtain ⟨f, js, hf, hjs, hframed, hvalue⟩ := exists_frame_of_compile htree h hkey
  have hread := fun j hj hmove => exists_read_eq h (hframed j hj) hmove hq hword
  -- What is read depends on nothing but the joint's name.
  obtain ⟨x, hx⟩ := exists_values js (r.inputs.read q) fun j hj hmove => by
    obtain ⟨_, y, _, _, _, _, hy⟩ := hread j hj hmove
    exact ⟨y, hy⟩
  obtain ⟨m, hm, hprod⟩ := exists_chainValue hframed (fun j hj => hrow j (hjs.subset hj)) hx
  refine ⟨f, js, m, x, hf, hjs, fun j hj => ⟨hframed j hj, fun hmove => ?_⟩, ?_, hprod⟩
  · obtain ⟨v, y, i, hv, hi, hentry, hy⟩ := hread j hj hmove
    obtain rfl := Except.ok.inj (hy.symm.trans (hx j hj hmove))
    exact ⟨v, i, hv, hi, hentry⟩
  · rw [hvalue, hm]

/-- A crane: a cart that slides on a rail, a boom that slews on the cart, and a hook on the boom. -/
noncomputable def craneJoints : List (Joint ℝ) :=
  [⟨"slide", .prismatic, "rail", "cart", .rest, Joint.defaultAxis,
      some ⟨.int 0, .int 9, .int 2, .int 1⟩⟩,
    ⟨"slew", .revolute, "cart", "boom",
      ⟨[.int 0, .int 0, .int 5], [.int 2, .int 0, .int 0, .int 0]⟩, [.int 0, .int 0, .int 2],
      some ⟨.int (-3), .int 3, .int 1, .int 1⟩⟩,
    ⟨"mount", .fixed, "boom", "hook", .rest, Joint.defaultAxis, none⟩]

/-- The tree of the crane. -/
noncomputable def craneTree : Tree ℝ := treeOf "crane" craneJoints [] "rail"

theorem ofJoints_crane : Tree.ofJoints "crane" craneJoints [] = .ok craneTree := by cbv

/-- From the rail to the hook it takes all three joints. -/
theorem leads_crane : Leads craneJoints "rail" craneJoints "hook" := by
  refine ⟨?_, rfl, ?_, rfl, ?_, rfl, rfl⟩ <;> simp [craneJoints]

theorem eq_of_leads_crane {js : List (Joint ℝ)} (hjs : Leads craneJoints "rail" js "hook") :
    js = craneJoints := by
  have hrooted := Tree.isRooted_of_ofJoints ofJoints_crane
  exact hjs.unique hrooted.children hrooted.acyclic leads_crane

/-- **The crane as a robot** with three chains, two of which make up the third. -/
theorem exists_crane :
    ∃ r, compile craneTree "rail" (.ok [.ends "cart" "hook", .tip "hook", .tip "cart"])
        [("slide", .int 1), ("slew", .int 1)] [] = .ok r ∧
      r.chains = [("cart", "hook"), ("rail", "hook"), ("rail", "cart")] ∧ r.size = 2 := by
  have hsome : ((compile craneTree "rail" (.ok [.ends "cart" "hook", .tip "hook", .tip "cart"])
      [("slide", .int 1), ("slew", .int 1)] []).toOption.map fun r => (r.chains, r.size)) =
      some ([("cart", "hook"), ("rail", "hook"), ("rail", "cart")], 2) := by
    decide +kernel
  obtain ⟨r, hok, hread⟩ := exists_of_map_toOption hsome
  obtain ⟨hchains, hsize⟩ := Prod.mk.inj hread
  exact ⟨r, hok, hchains, hsize⟩

theorem areRow_crane : ∀ j ∈ craneJoints, Number.areRow j.origin.rotation = true := by
  refine List.forall_mem_cons.2 ⟨Number.areRow_of_real_mem List.mem_cons_self, ?_⟩
  refine List.forall_mem_cons.2 ⟨rfl, ?_⟩
  exact List.forall_mem_singleton.2 (Number.areRow_of_real_mem List.mem_cons_self)

/-- **The hook of the crane** is where its three joints put it. -/
theorem compile_placement_crane :
    ∃ r f m, ∃ x : String → ℝ,
      compile craneTree "rail" (.ok [.ends "cart" "hook", .tip "hook", .tip "cart"])
        [("slide", .int 1), ("slew", .int 1)] [] = .ok r ∧ r.frame "rail" "hook" = .ok f ∧
      ((f.evaluate [2, 3]).inPass .new).1 = .ok m ∧
      m.toMatrix = (craneJoints.map fun j => j.placement * j.displacement (x j.name)).prod := by
  obtain ⟨r, hok, hchains, hsize⟩ := exists_crane
  have hkey : ("rail", "hook") ∈ r.chains := by
    rw [hchains]
    decide
  obtain ⟨f, js, m, x, hf, hjs, -, hm, hprod⟩ :=
    compile_placement ofJoints_crane hok areRow_crane (q := [2, 3]) hsize.symm rfl hkey
  obtain rfl := eq_of_leads_crane hjs
  exact ⟨r, f, m, x, hok, hf, hm, hprod⟩

/-- **Chains that meet end to end**: the frame over both is the product of theirs, at every input
vector, and comes to a fault exactly if one of theirs does. -/
theorem compile_composition (htree : Tree.ofJoints name joints extra = .ok tree)
    (h : compile tree root (.ok requests) weights thresholds = .ok r) {a b c : String}
    (hab : (a, b) ∈ r.chains) (hbc : (b, c) ∈ r.chains) (hac : (a, c) ∈ r.chains) :
    ∃ f g k, r.frame a b = .ok f ∧ r.frame b c = .ok g ∧ r.frame a c = .ok k ∧
      ∀ q, ((k.evaluate q).inPass .new).1 =
        (do return (← ((f.evaluate q).inPass .new).1) * (← ((g.evaluate q).inPass .new).1)) := by
  obtain ⟨f, js, hf, hjs, -, hfvalue⟩ := exists_frame_of_compile htree h hab
  obtain ⟨g, ks, hg, hks, -, hgvalue⟩ := exists_frame_of_compile htree h hbc
  obtain ⟨k, ls, hk, hls, -, hkvalue⟩ := exists_frame_of_compile htree h hac
  have hrooted := Tree.isRooted_of_ofJoints htree
  obtain ⟨top, -, -, rfl⟩ := Tree.ofJoints_eq_ok_iff.1 htree
  -- Only one list of joints leads from one link to another.
  obtain rfl : ls = js ++ ks :=
    hls.unique hrooted.children hrooted.acyclic (leads_append.2 ⟨b, hjs, hks⟩)
  refine ⟨f, g, k, hf, hg, hk, fun q => ?_⟩
  rw [hkvalue, hfvalue, hgvalue, chainValue_append]

/-- **The hook of the crane from its cart**, and the cart from its rail. -/
theorem compile_composition_crane :
    ∃ r f g k, compile craneTree "rail" (.ok [.ends "cart" "hook", .tip "hook", .tip "cart"])
        [("slide", .int 1), ("slew", .int 1)] [] = .ok r ∧
      r.frame "rail" "cart" = .ok f ∧ r.frame "cart" "hook" = .ok g ∧
      r.frame "rail" "hook" = .ok k ∧
      ∀ q, ((k.evaluate q).inPass .new).1 =
        (do return (← ((f.evaluate q).inPass .new).1) * (← ((g.evaluate q).inPass .new).1)) := by
  obtain ⟨r, hok, hchains, -⟩ := exists_crane
  have hupper : ("rail", "cart") ∈ r.chains := by
    rw [hchains]
    decide
  have hlower : ("cart", "hook") ∈ r.chains := by
    rw [hchains]
    decide
  have hboth : ("rail", "hook") ∈ r.chains := by
    rw [hchains]
    decide
  obtain ⟨f, g, k, hframes⟩ := compile_composition ofJoints_crane hok hupper hlower hboth
  exact ⟨r, f, g, k, hok, hframes⟩

end Robot

end Linkage
