import Linkage.Proofs.Placement
import Linkage.Proofs.Readiness

/-!
# Chains in another order

The order in which chains are asked for decides in which order a robot meets its joints, and with
it which entry of the input vector is whose. It decides nothing else. Whether a robot can be made
is a matter of the chains one by one (`Linkage.Robot.exists_compile_iff`), and so is which joints
it has. What its frames and its constraints come to has been told of joints and of what is read
for them, without any places. So two robots with the same chains differ in places only
(`Linkage.Robot.Rearranges`): if for each joint the same is meant, it is arranged for one robot
in one way and for the other in another, and everything comes to the same.

* `Linkage.Robot.rearranges_of_chains` – robots with the same chains;
* `Linkage.Robot.compile_perm` – robots that were asked for the same chains.
-/

namespace Linkage

/-- **Things with names of their own**, in two lists. If the names are the same, and things with
the same name have the same value, then the values come under the same names. -/
theorem perm_map_of_name_eq {β γ : Type} {name : β → String} {f g : β → γ} {xs ys : List β}
    (hxs : (xs.map name).Nodup) (hnames : (xs.map name).Perm (ys.map name))
    (hfg : ∀ x ∈ xs, ∀ y ∈ ys, name x = name y → f x = g y) :
    (xs.map fun x => (name x, f x)).Perm (ys.map fun y => (name y, g y)) := by
  have hys : (ys.map name).Nodup := hnames.nodup_iff.1 hxs
  rw [List.perm_ext_iff_of_nodup (.of_map Prod.fst (by rwa [List.map_map]))
    (.of_map Prod.fst (by rwa [List.map_map]))]
  rintro ⟨n, v⟩
  simp only [List.mem_map, Prod.mk.injEq]
  constructor
  · rintro ⟨x, hx, rfl, rfl⟩
    obtain ⟨y, hy, hname⟩ := List.mem_map.1 (hnames.subset (List.mem_map_of_mem hx))
    exact ⟨y, hy, hname, (hfg x hx y hy hname.symm).symm⟩
  · rintro ⟨y, hy, rfl, rfl⟩
    obtain ⟨x, hx, hname⟩ := List.mem_map.1 (hnames.symm.subset (List.mem_map_of_mem hy))
    exact ⟨x, hx, hname, hfg x hx y hy hname⟩

namespace Robot

variable {α : Type} [Scalar α] {name root : String} {joints : List (Joint α)}
  {extra : List String} {tree : Tree α} {requests requests' : List ChainRequest}
  {weights thresholds : Settings α} {r r' : Robot α}

/-- **Robots that differ in places only.** They have the same chains and the same joints, with the
same constraints, and if for each joint the same is meant, frames and hard constraints come to the
same. Faults are among what they may come to. That the entries of an input vector are no more
than a word can count has to be said only where places are read. -/
structure Rearranges (r r' : Robot α) : Prop where
  chains : r.chains.Perm r'.chains
  jointNames : r.jointNames.Perm r'.jointNames
  controllable_joint : r.controllables.map (·.joint) = r.jointNames
  controllable : ∀ q q', (r.controllables.map fun c => (c.joint, c.valuesAt q)).Perm
    (r'.controllables.map fun c => (c.joint, c.valuesAt q'))
  hard_joint : (r.hard.map (·.joint)).Perm (r'.hard.map (·.joint))
  hard : fitsWord r.size = true → ∀ x,
    (r.hard.map fun c => (c.joint, c.valuesAt (r.arrange x))).Perm
      (r'.hard.map fun c => (c.joint, c.valuesAt (r'.arrange x)))
  frame : fitsWord r.size = true → ∀ key ∈ r.chains, ∃ f f',
    r.frame key.1 key.2 = .ok f ∧ r'.frame key.1 key.2 = .ok f' ∧
      ∀ x, ((f.evaluate (r.arrange x)).inPass .new).1 = ((f'.evaluate (r'.arrange x)).inPass .new).1

section SameChains

variable (htree : tree.IsRooted)
  (h : compile tree root (.ok requests) weights thresholds = .ok r)
  (h' : compile tree root (.ok requests') weights thresholds = .ok r')
  (hchains : r.chains.Perm r'.chains)

include htree h h' hchains

/-- On the same chains the same joints move. -/
theorem jointNames_perm : r.jointNames.Perm r'.jointNames := by
  obtain ⟨_, -, hr⟩ := aligned_of_compile h
  obtain ⟨_, -, hr'⟩ := aligned_of_compile h'
  rw [List.perm_ext_iff_of_nodup hr.nodup_jointNames hr'.nodup_jointNames]
  intro name
  rw [hr.mem_jointNames_iff htree (madeFrom_of_compile h).above_eq,
    hr'.mem_jointNames_iff htree (madeFrom_of_compile h').above_eq]
  simp only [hchains.mem_iff]

/-- **The same is read for a joint** wherever it stands. -/
theorem read_arrange_eq (hword : fitsWord r.size = true) {joint : String}
    (hjoint : joint ∈ r.jointNames) (x : String → α) :
    r.inputs.read (r.arrange x) joint = r'.inputs.read (r'.arrange x) joint := by
  have hperm := jointNames_perm htree h h' hchains
  have hsize : r.size = r'.size := by
    rw [← length_arrange r x, ← length_arrange r' x, arrange, arrange, List.length_map,
      List.length_map, hperm.length_eq]
  rw [read_arrange h hword hjoint, read_arrange h' (hsize ▸ hword) (hperm.mem_iff.1 hjoint)]

theorem controllable_perm (q q' : List α) :
    (r.controllables.map fun c => (c.joint, c.valuesAt q)).Perm
      (r'.controllables.map fun c => (c.joint, c.valuesAt q')) := by
  obtain ⟨_, -, hr⟩ := aligned_of_compile h
  obtain ⟨_, -, hr'⟩ := aligned_of_compile h'
  have hgiven := madeFrom_of_compile h
  have hgiven' := madeFrom_of_compile h'
  rw [hr.controllables_eq, hr'.controllables_eq]
  refine perm_map_of_name_eq ?_ ?_ fun c hc c' hc' hname => ?_
  · rw [hr.controllable_joint]
    exact hr.nodup_jointNames
  · rw [hr.controllable_joint, hr'.controllable_joint]
    exact jointNames_perm htree h h' hchains
  · obtain ⟨j, w, limit, hj, hw, hlimit, hvalues⟩ :=
      (grounded_of_compile h).controllable_valuesAt hc
    obtain ⟨j', w', limit', hj', hw', hlimit', hvalues'⟩ :=
      (grounded_of_compile h').controllable_valuesAt hc'
    -- Joint, weight and velocity are found under the name alone.
    rw [hgiven.tree_eq, hname] at hj
    rw [hgiven'.tree_eq, hj] at hj'
    obtain rfl := Except.ok.inj hj'
    rw [hgiven.weights_eq, hname] at hw
    rw [hgiven'.weights_eq, hw] at hw'
    obtain rfl := Except.ok.inj hw'
    rw [hgiven.thresholds_eq] at hlimit
    rw [hgiven'.thresholds_eq, hlimit] at hlimit'
    obtain rfl := Except.ok.inj hlimit'
    rw [hvalues, hvalues']

theorem hard_joint_perm : (r.hard.map (·.joint)).Perm (r'.hard.map (·.joint)) := by
  obtain ⟨_, -, hr⟩ := aligned_of_compile h
  obtain ⟨_, -, hr'⟩ := aligned_of_compile h'
  rw [hr.hard_joint, hr'.hard_joint]
  exact (jointNames_perm htree h h' hchains).filter _

theorem hard_perm (hword : fitsWord r.size = true) (x : String → α) :
    (r.hard.map fun c => (c.joint, c.valuesAt (r.arrange x))).Perm
      (r'.hard.map fun c => (c.joint, c.valuesAt (r'.arrange x))) := by
  obtain ⟨_, -, hr⟩ := aligned_of_compile h
  have hnodup : (r.hard.map (·.joint)).Nodup := by
    rw [hr.hard_joint]
    exact hr.nodup_jointNames.filter _
  refine perm_map_of_name_eq hnodup (hard_joint_perm htree h h' hchains) fun c hc c' hc' hname => ?_
  obtain ⟨j, limits, hj, hl, hvalues⟩ := (grounded_of_compile h).hard_valuesAt hc
  obtain ⟨j', limits', hj', hl', hvalues'⟩ := (grounded_of_compile h').hard_valuesAt hc'
  rw [(madeFrom_of_compile h).tree_eq, hname] at hj
  rw [(madeFrom_of_compile h').tree_eq, hj] at hj'
  obtain rfl := Except.ok.inj hj'
  rw [hl] at hl'
  obtain rfl := Option.some.inj hl'
  have hjoint : c.joint ∈ r.jointNames := by
    have hmem : c.joint ∈ r.hard.map (·.joint) := List.mem_map_of_mem hc
    rw [hr.hard_joint] at hmem
    exact (List.mem_filter.1 hmem).1
  have hread := read_arrange_eq htree h h' hchains hword hjoint x
  rw [hvalues, hvalues', ← hname, hread]

end SameChains

/-- **Robots with the same chains** differ in places only. -/
theorem rearranges_of_chains (htree : Tree.ofJoints name joints extra = .ok tree)
    (h : compile tree root (.ok requests) weights thresholds = .ok r)
    (h' : compile tree root (.ok requests') weights thresholds = .ok r')
    (hchains : r.chains.Perm r'.chains) : Rearranges r r' := by
  have hrooted := Tree.isRooted_of_ofJoints htree
  obtain ⟨_, -, hr⟩ := aligned_of_compile h
  refine {
    chains := hchains
    jointNames := jointNames_perm hrooted h h' hchains
    controllable_joint := by rw [hr.controllables_eq, hr.controllable_joint]
    controllable := controllable_perm hrooted h h' hchains
    hard_joint := hard_joint_perm hrooted h h' hchains
    hard := hard_perm hrooted h h' hchains
    frame := fun hword key hkey => ?_ }
  obtain ⟨f, js, hf, hjs, -, hvalue⟩ := exists_frame_of_compile htree h hkey
  obtain ⟨f', js', hf', hjs', -, hvalue'⟩ :=
    exists_frame_of_compile htree h' (hchains.mem_iff.1 hkey)
  obtain ⟨top, -, -, rfl⟩ := Tree.ofJoints_eq_ok_iff.1 htree
  obtain rfl : js' = js := hjs'.unique hrooted.children hrooted.acyclic hjs
  refine ⟨f, f', hf, hf', fun x => ?_⟩
  -- The frames are those of the same joints, and for those that move the same is read.
  have hframes : framesAlong (r.inputs.read (r.arrange x)) js' =
      framesAlong (r'.inputs.read (r'.arrange x)) js' := by
    refine framesAlong_congr fun j hj hmove => read_arrange_eq hrooted h h' hchains hword ?_ x
    exact (hr.mem_jointNames_iff hrooted (madeFrom_of_compile h).above_eq).2
      ⟨key, hkey, js', hjs, j, hj, hmove, rfl⟩
  rw [hvalue, hvalue', chainValue, chainValue, hframes]

omit [Scalar α] in
/-- Requests in another order name the same chains in another order. -/
theorem Names.perm {keys : List ChainKey} (hkeys : Names (α := α) root requests keys)
    (hperm : requests.Perm requests') :
    ∃ keys', Names (α := α) root requests' keys' ∧ keys'.Perm keys :=
  List.perm_comp_forall₂ hperm.symm hkeys

omit [Scalar α] in
theorem Names.unique {keys keys' : List ChainKey} (hkeys : Names (α := α) root requests keys)
    (hkeys' : Names (α := α) root requests keys') : keys' = keys := by
  refine List.right_unique_forall₂' (fun _ _ _ h h' => ?_) hkeys' hkeys
  exact Except.ok.inj (h.symm.trans h')

/-- **Asked for the same chains in another order**, a robot can be made as well. -/
theorem exists_compile_of_perm (htree : tree.IsRooted) (hperm : requests.Perm requests')
    (h : ∃ r, compile tree root (.ok requests) weights thresholds = .ok r) :
    ∃ r', compile tree root (.ok requests') weights thresholds = .ok r' := by
  rw [exists_compile_iff htree] at h ⊢
  obtain ⟨keys, hkeys, hready⟩ := h
  obtain ⟨keys', hkeys', hsame⟩ := hkeys.perm hperm
  exact ⟨keys', hkeys', fun key hkey => hready key (hsame.mem_iff.1 hkey)⟩

/-- **Asked for the same chains in another order**, a robot can be made exactly if it could
be before, and it differs in places only. -/
theorem compile_perm (htree : Tree.ofJoints name joints extra = .ok tree)
    (hperm : requests.Perm requests') :
    ((∃ r, compile tree root (.ok requests) weights thresholds = .ok r) ↔
      ∃ r', compile tree root (.ok requests') weights thresholds = .ok r') ∧
    ∀ r r', compile tree root (.ok requests) weights thresholds = .ok r →
      compile tree root (.ok requests') weights thresholds = .ok r' → Rearranges r r' := by
  have hrooted := Tree.isRooted_of_ofJoints htree
  constructor
  · exact ⟨exists_compile_of_perm hrooted hperm, exists_compile_of_perm hrooted hperm.symm⟩
  · intro r r' h h'
    refine rearranges_of_chains htree h h' ?_
    obtain ⟨keys, hkeys, hr⟩ := aligned_of_compile h
    obtain ⟨keys', hkeys', hr'⟩ := aligned_of_compile h'
    obtain ⟨ks, hks, hsame⟩ := hkeys.perm hperm
    obtain rfl := hkeys'.unique hks
    rw [List.perm_ext_iff_of_nodup hr.nodup_chains hr'.nodup_chains]
    intro key
    rw [hr.chains_eq, hr'.chains_eq, List.mem_eraseDups, List.mem_eraseDups, hsame.mem_iff]

/-- **The crane asked for from its rail outward** meets its slide first, and else is the same. -/
theorem compile_perm_crane :
    ∃ r r', compile craneTree "rail" (.ok [.ends "cart" "hook", .tip "hook", .tip "cart"])
        [("slide", .int 1), ("slew", .int 1)] [] = .ok r ∧
      compile craneTree "rail" (.ok [.tip "cart", .tip "hook", .ends "cart" "hook"])
        [("slide", .int 1), ("slew", .int 1)] [] = .ok r' ∧ Rearranges r r' := by
  obtain ⟨r, hok, -, -⟩ := exists_crane
  have hreverse : [ChainRequest.ends "cart" "hook", .tip "hook", .tip "cart"].Perm
      [.tip "cart", .tip "hook", .ends "cart" "hook"] := (List.reverse_perm _).symm
  obtain ⟨hiff, hsame⟩ := compile_perm ofJoints_crane hreverse
  obtain ⟨r', hok'⟩ := hiff.1 ⟨r, hok⟩
  exact ⟨r, r', hok, hok', hsame r r' hok hok'⟩

end Robot

end Linkage
