import Linkage.Proofs.ConstraintValues

/-!
# A chain to every end of the tree

A robot knows only the joints that are on its chains. To have it know all joints of a tree it is
enough to ask for the chains from the root to the links that carry no joint, the leaves. Other tips
may be asked for as well, and make no difference to which joints are met.

The reason goes the other way round than the search for a chain does, which climbs from the tip. It
has to be seen that below each joint there is a leaf, and for that one goes down. One cannot go down
for ever: a way down that crosses no joint twice crosses no more of them than there are, and every
joint below its end makes it longer. So a way that can be made no longer ends on a leaf
(`Linkage.Leads.exists_leaf`). As the root is above all there is, every joint lies on the way from
the root to some leaf (`Linkage.Tree.IsRooted.exists_leaf_of_mem`), and the chain to that leaf is one
of those asked for.

No joint is had twice, as `Linkage.Robot.Aligned.nodup_jointNames` says of any robot, so what it
knows is a rearrangement of what the tree has (`Linkage.Robot.compile_coverage`).
-/

namespace Linkage

variable {α : Type}

/-! ### Leaves -/

/-- **A link that carries no joint.** -/
def IsLeaf (joints : List (Joint α)) (link : String) : Prop := ∀ j ∈ joints, j.parent ≠ link

/-- **Below the end of every way down there is a leaf.** If a joint hangs below its end, the way can
be made longer by it, and there is one joint fewer that it might cross. -/
theorem Leads.exists_leaf {joints js : List (Joint α)} (ha : Acyclic joints)
    {upper lower : String} (h : Leads joints upper js lower) :
    ∃ leaf, Reaches joints lower leaf ∧ IsLeaf joints leaf := by
  by_cases hleaf : IsLeaf joints lower
  · exact ⟨lower, Relation.ReflTransGen.refl, hleaf⟩
  · obtain ⟨j, hj, hparent⟩ : ∃ j ∈ joints, j.parent = lower := by
      simpa [IsLeaf] using hleaf
    have hlonger : Leads joints upper (js ++ [j]) j.child :=
      leads_concat.2 ⟨hparent ▸ h, hj, rfl⟩
    have hlength : (js ++ [j]).length ≤ joints.length := hlonger.length_le ha
    obtain ⟨leaf, hreach, hleaf⟩ := hlonger.exists_leaf ha
    exact ⟨leaf, hreach.head ⟨j, hj, hparent, rfl⟩, hleaf⟩
termination_by joints.length - js.length
decreasing_by
  simp only [List.length_append, List.length_singleton] at hlength ⊢
  omega

/-- **Every joint of a tree is on the way from the root to a leaf.** -/
theorem Tree.IsRooted.exists_leaf_of_mem {tree : Tree α} (h : tree.IsRooted) {j : Joint α}
    (hj : j ∈ tree.joints) :
    ∃ leaf js, leaf ∈ tree.linkNames ∧ IsLeaf tree.joints leaf ∧
      Leads tree.joints tree.root js leaf ∧ j ∈ js := by
  obtain ⟨hparent, hchild⟩ := h.ends j hj
  obtain ⟨before, hbefore⟩ := reaches_iff_leads.1 (h.reached j.parent hparent)
  have hnil : Leads tree.joints j.child [] j.child := rfl
  obtain ⟨leaf, hbelow, hleaf⟩ := hnil.exists_leaf h.acyclic
  obtain ⟨after, hafter⟩ := reaches_iff_leads.1 hbelow
  have hway : Leads tree.joints tree.root (before ++ j :: after) leaf :=
    leads_append.2 ⟨j.parent, hbefore, hj, rfl, hafter⟩
  refine ⟨leaf, _, ?_, hleaf, hway, List.mem_append_right _ List.mem_cons_self⟩
  by_cases heq : tree.root = leaf
  · rw [← heq]
    exact h.root_mem
  · exact h.mem_linkNames_of_leads hway heq

theorem Tree.mem_moveableNames {tree : Tree α} {name : String} :
    name ∈ tree.moveableNames ↔ ∃ j ∈ tree.joints, j.isMoveable = true ∧ j.name = name := by
  simp only [moveableNames, List.mem_map, List.mem_filter, and_assoc]

/-- No joint is among those that move twice. -/
theorem Tree.IsRooted.nodup_moveableNames {tree : Tree α} (h : tree.IsRooted) :
    tree.moveableNames.Nodup := h.names.sublist (List.filter_sublist.map _)

/-! ### Robots with a chain to every leaf -/

namespace Robot

variable [Scalar α] {tree : Tree α} {root : String} {tips : List String}
  {weights thresholds : Settings α} {r : Robot α}

/-- Every tip that is asked for has its chain. -/
theorem mem_chains_of_tip (h : compile tree root (.ok (tips.map .tip)) weights thresholds = .ok r)
    {tip : String} (htip : tip ∈ tips) : (root, tip) ∈ r.chains := by
  obtain ⟨keys, hkeys, hr⟩ := aligned_of_compile h
  obtain ⟨key, hkey, hnamed⟩ := exists_of_mem_left hkeys (List.mem_map_of_mem htip)
  obtain rfl : (root, tip) = key := Except.ok.inj hnamed
  exact hr.mem_chains_iff.2 hkey

/-- **A chain to every leaf is a chain to everything.** A robot is asked for chains from the root of
its tree, among them those to all links that carry no joint. If it can be made, the joints that it
knows are the joints of the tree that move, and every joint of the tree, fixed or not, is on one of
the chains that were asked for. -/
theorem compile_coverage {name : String} {joints : List (Joint α)} {extra : List String}
    (htree : Tree.ofJoints name joints extra = .ok tree)
    (htips : ∀ link ∈ tree.linkNames, IsLeaf tree.joints link → link ∈ tips)
    (h : compile tree tree.root (.ok (tips.map .tip)) weights thresholds = .ok r) :
    r.jointNames.Perm tree.moveableNames ∧
    ∀ j ∈ tree.joints, ∃ tip ∈ tips, ∃ names,
      r.pathNames tree.root tip true = .ok names ∧ j.name ∈ names := by
  have hrooted := Tree.isRooted_of_ofJoints htree
  have hgiven := madeFrom_of_compile h
  obtain ⟨keys, -, hr⟩ := aligned_of_compile h
  have hway : ∀ j ∈ tree.joints, ∃ tip ∈ tips, ∃ js, Leads tree.joints tree.root js tip ∧ j ∈ js := by
    intro j hj
    obtain ⟨leaf, js, hlink, hleaf, hjs, hmem⟩ := hrooted.exists_leaf_of_mem hj
    exact ⟨leaf, htips leaf hlink hleaf, js, hjs, hmem⟩
  constructor
  · rw [List.perm_ext_iff_of_nodup hr.nodup_jointNames hrooted.nodup_moveableNames]
    intro joint
    rw [hr.mem_jointNames_iff hrooted hgiven.above_eq, Tree.mem_moveableNames]
    constructor
    · rintro ⟨key, -, js, hjs, j, hj, hmove, rfl⟩
      exact ⟨j, hjs.subset hj, hmove, rfl⟩
    · rintro ⟨j, hj, hmove, rfl⟩
      obtain ⟨tip, htip, js, hjs, hmem⟩ := hway j hj
      exact ⟨(tree.root, tip), mem_chains_of_tip h htip, js, hjs, j, hmem, hmove, rfl⟩
  · intro j hj
    obtain ⟨tip, htip, js, hjs, hmem⟩ := hway j hj
    have hnames := hrooted.pathNames_of_leads hgiven.above_eq hjs true
    simp only [Bool.true_or, List.filter_true] at hnames
    refine ⟨tip, htip, js.map (·.name), ?_, List.mem_map_of_mem hmem⟩
    rw [pathNames, hgiven.tree_eq, hnames]

/-- The cart with its mast, and a lamp on the cart that turns. -/
def lampJoints : List (Joint Float) :=
  cartJoints ++ [⟨"swivel", .continuous, "cart", "lamp", .rest, Joint.defaultAxis,
    some ⟨.real 0, .real 0, .real 2, .real 1⟩⟩]

/-- The tree of the cart with its lamp. -/
def lampTree : Tree Float := treeOf "lamp" lampJoints [] "rail"

/-- **Asked for the mast, the cart and the lamp**, a robot knows the slide and the swivel, and the
mount is on the chain to the mast. -/
theorem compile_coverage_lamp :
    Tree.ofJoints "lamp" lampJoints [] = .ok lampTree ∧
    (∀ link ∈ lampTree.linkNames, IsLeaf lampTree.joints link → link ∈ ["mast", "cart", "lamp"]) ∧
    ∃ r, compile lampTree "rail" (.ok (["mast", "cart", "lamp"].map .tip))
        [("default_joint_weight", .real 1)] [] = .ok r ∧
      r.jointNames.Perm ["slide", "swivel"] ∧
      ∃ tip ∈ ["mast", "cart", "lamp"], ∃ names,
        r.pathNames "rail" tip true = .ok names ∧ "mount" ∈ names := by
  have htree : Tree.ofJoints "lamp" lampJoints [] = .ok lampTree := by cbv
  have htips : ∀ link ∈ lampTree.linkNames,
      IsLeaf lampTree.joints link → link ∈ ["mast", "cart", "lamp"] := by
    unfold IsLeaf
    decide
  have hsome : (compile lampTree "rail" (.ok (["mast", "cart", "lamp"].map .tip))
      [("default_joint_weight", .real 1)] []).toOption.isSome = true := by
    decide +kernel
  rcases hok : compile lampTree "rail" (.ok (["mast", "cart", "lamp"].map .tip))
      [("default_joint_weight", .real 1)] [] with failure | r
  · rw [hok] at hsome
    cases hsome
  · obtain ⟨hjoints, hway⟩ := compile_coverage htree htips hok
    have hmount : (⟨"mount", .fixed, "cart", "mast", .rest, Joint.defaultAxis, none⟩ : Joint Float) ∈
        lampTree.joints := by
      simp [lampTree, treeOf, lampJoints, cartJoints]
    exact ⟨htree, htips, r, rfl, hjoints, hway _ hmount⟩

end Robot

end Linkage
