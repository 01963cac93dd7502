import Linkage.Proofs.Acceptance

/-!
# Trees that are trees

A `Linkage.Tree` may be put together from anything. What is true of those that
`Linkage.Tree.ofJoints` makes, and what every question about them relies on, is the
invariant `Linkage.Tree.IsRooted`: names and children are distinct, the links and the
joints speak of each other, and the root reaches all there is.

From the invariant come the answers to the questions: no question about a link or a joint
of the tree fails, the joint above a link is the joint whose child it is, the joints are
one fewer than the links, and going up by asking for the joint above
(`Linkage.Tree.ascend`) comes to the root without coming by a link twice.

A tree also holds all that it was made from, in an order that is kept when it is made once
more: made again from its own joints and links, it is the same tree
(`Linkage.Tree.ofJoints_remade`).
-/

namespace Linkage

variable {α : Type}

namespace Tree

/-! ### The invariant -/

/-- **A tree that is a tree.** -/
structure IsRooted (tree : Tree α) : Prop where
  /-- Every joint has a name. -/
  named : ∀ j ∈ tree.joints, j.name ≠ ""
  /-- No two joints have the same name. -/
  names : tree.jointNames.Nodup
  /-- No two joints have the same child. -/
  children : (tree.joints.map (·.child)).Nodup
  /-- No two links have the same name. -/
  links : tree.linkNames.Nodup
  /-- The joints are between links of the tree. -/
  ends : ∀ j ∈ tree.joints, j.parent ∈ tree.linkNames ∧ j.child ∈ tree.linkNames
  /-- A link names the joint whose child it is. -/
  hung : ∀ l ∈ tree.links, l.parentJoint = (jointAbove? tree.joints l.name).map (·.name)
  /-- Of all links, the root and no other is below no joint. -/
  top : ∀ link, link ∈ tree.linkNames ∧ IsTop tree.joints link ↔ link = tree.root
  /-- The root reaches every link. -/
  reached : ∀ link ∈ tree.linkNames, Reaches tree.joints tree.root link

theorem linkNames_treeOf (name : String) (joints : List (Joint α)) (extra : List String)
    (root : String) : (treeOf name joints extra root).linkNames = linksOf joints extra := by
  rw [linkNames, treeOf, List.map_map]
  exact List.map_id _

/-- **What is made from joints is a tree.** -/
theorem isRooted_of_ofJoints {name : String} {joints : List (Joint α)} {extra : List String}
    {tree : Tree α} (h : ofJoints name joints extra = .ok tree) : tree.IsRooted := by
  obtain ⟨root, hcons, hreach, rfl⟩ := ofJoints_eq_ok_iff.1 h
  have hmem : ∀ {link}, link ∈ (treeOf name joints extra root).linkNames ↔
      Mentions joints extra link := fun {link} => by
    rw [linkNames_treeOf, mem_linksOf]
  refine ⟨hcons.named, hcons.names, hcons.children, ?_, fun j hj => ?_, fun l hl => ?_,
    fun link => ?_, fun link hlink => hreach link (hmem.1 hlink)⟩
  · rw [linkNames_treeOf]
    exact nodup_linksOf joints extra
  · exact ⟨hmem.2 (mentions_ends hj).1, hmem.2 (mentions_ends hj).2⟩
  · obtain ⟨link, -, rfl⟩ := List.mem_map.1 hl
    rfl
  · rw [hmem]
    exact hcons.top link

namespace IsRooted

variable {tree : Tree α}

/-! ### The questions and their answers -/

theorem root_mem (h : tree.IsRooted) : tree.root ∈ tree.linkNames := ((h.top tree.root).2 rfl).1

theorem isTop_root (h : tree.IsRooted) : IsTop tree.joints tree.root := ((h.top tree.root).2 rfl).2

/-- **A joint of the tree is found by its name.** -/
theorem joint_of_mem (h : tree.IsRooted) {j : Joint α} (hj : j ∈ tree.joints) :
    tree.joint j.name = .ok j := by
  rw [joint, if_neg (h.named j hj), (find?_eq_some_iff_of_nodup Joint.name h.names).2 ⟨hj, rfl⟩]

/-- **A link of the tree is found by its name**, with the joint above it. -/
theorem link_of_mem (h : tree.IsRooted) {link : String} (hl : link ∈ tree.linkNames) :
    tree.link link = .ok ⟨link, (jointAbove? tree.joints link).map (·.name)⟩ := by
  obtain ⟨l, hmem, rfl⟩ := List.mem_map.1 hl
  rw [Tree.link, (find?_eq_some_iff_of_nodup Link.name h.links).2 ⟨hmem, rfl⟩, ← h.hung l hmem]

/-- **The joint above a link** is the joint whose child it is. -/
theorem parentJoint_of_mem (h : tree.IsRooted) {link : String} (hl : link ∈ tree.linkNames) :
    tree.parentJoint link = .ok (jointAbove? tree.joints link) := by
  rw [parentJoint, h.link_of_mem hl]
  rcases hj : jointAbove? tree.joints link with _ | j
  · rfl
  · change (tree.joint j.name).map some = .ok (some j)
    rw [h.joint_of_mem (mem_of_jointAbove? hj).1]
    rfl

/-- There is no joint above the root, and above no other link there is none. -/
theorem jointAbove?_eq_none_iff (h : tree.IsRooted) {link : String} (hl : link ∈ tree.linkNames) :
    jointAbove? tree.joints link = none ↔ link = tree.root := by
  rw [jointAbove?_eq_none, ← h.top link]
  exact ⟨fun ht => ⟨hl, ht⟩, fun ht => ht.2⟩

/-- **No link is above itself.** -/
theorem acyclic (h : tree.IsRooted) : Acyclic tree.joints := by
  intro link hround
  obtain ⟨_, -, j, hj, -, rfl⟩ := Relation.TransGen.tail'_iff.1 hround
  exact not_belowCycle_of_reaches h.children h.isTop_root (h.reached _ (h.ends j hj).2)
    ⟨j.child, hround, Relation.ReflTransGen.refl⟩

/-! ### How many links there are -/

/-- The links are the root and the children of the joints. -/
theorem linkNames_perm (h : tree.IsRooted) :
    tree.linkNames.Perm (tree.root :: tree.joints.map (·.child)) := by
  have hroot : tree.root ∉ tree.joints.map (·.child) := fun hmem => by
    obtain ⟨j, hj, hchild⟩ := List.mem_map.1 hmem
    exact h.isTop_root j hj hchild
  refine (List.perm_ext_iff_of_nodup h.links (List.nodup_cons.2 ⟨hroot, h.children⟩)).2 ?_
  intro link
  rw [List.mem_cons, List.mem_map]
  constructor
  · intro hl
    rcases hj : jointAbove? tree.joints link with _ | j
    · exact Or.inl ((h.jointAbove?_eq_none_iff hl).1 hj)
    · exact Or.inr ⟨j, mem_of_jointAbove? hj⟩
  · rintro (rfl | ⟨j, hj, rfl⟩)
    · exact h.root_mem
    · exact (h.ends j hj).2

/-- **There is one more link than joints.** -/
theorem length_links (h : tree.IsRooted) : tree.links.length = tree.joints.length + 1 := by
  have := h.linkNames_perm.length_eq
  rwa [linkNames, List.length_map, List.length_cons, List.length_map] at this

end IsRooted

/-! ### Going up by asking -/

/-- **Going up** some steps by asking for the joint above, and going on from its parent.
Above the root there is nothing. -/
def ascend (tree : Tree α) : (steps : Nat) → (link : String) → Except (Fault α) (Option String)
  | 0, link => .ok (some link)
  | steps + 1, link =>
    match tree.parentJoint link with
    | .error fault => .error fault
    | .ok none => .ok none
    | .ok (some joint) => tree.ascend steps joint.parent

/-- Asking goes up as the joints say. -/
theorem IsRooted.ascend_eq {tree : Tree α} (h : tree.IsRooted) {link : String}
    (hl : link ∈ tree.linkNames) (n : Nat) :
    tree.ascend n link = .ok (rise tree.joints n link) := by
  induction n generalizing link with
  | zero => rfl
  | succ n ih =>
    rw [ascend, h.parentJoint_of_mem hl, rise_succ]
    rcases hj : jointAbove? tree.joints link with _ | j
    · rfl
    · exact ih (h.ends j (mem_of_jointAbove? hj).1).1

/-- **From every link one comes up to the root**, over no more joints than there are and
by no link twice. -/
theorem IsRooted.exists_ascend_root {tree : Tree α} (h : tree.IsRooted) {link : String}
    (hl : link ∈ tree.linkNames) :
    ∃ n ≤ tree.joints.length, tree.ascend n link = .ok (some tree.root) ∧
      ∀ i k, i < k → k ≤ n → tree.ascend i link ≠ tree.ascend k link := by
  obtain ⟨js, hjs⟩ := reaches_iff_leads.1 (h.reached link hl)
  have hrise := rise_of_leads h.children hjs
  refine ⟨js.length, hjs.length_le h.acyclic, by rw [h.ascend_eq hl, hrise], ?_⟩
  intro i k hik hk heq
  rw [h.ascend_eq hl, h.ascend_eq hl] at heq
  -- Before the root is come to, there is a link to stand on.
  obtain ⟨x, hx, -⟩ : ∃ x, rise tree.joints k link = some x ∧
      rise tree.joints (js.length - k) x = some tree.root := by
    rw [← Nat.add_sub_cancel' hk, rise_add] at hrise
    exact Option.bind_eq_some_iff.1 hrise
  exact rise_ne_rise h.acyclic hik ((Except.ok.inj heq).trans hx) hx rfl

/-! ### All that a tree made from joints is -/

/-- The given links come first, and after them those that joints are the first to
mention. -/
theorem linksOf_eq (joints : List (Joint α)) (extra : List String) :
    linksOf joints extra =
      extra.eraseDups ++ ((endsOf joints).filter fun link => link ∉ extra).eraseDups := by
  rw [linksOf, ← endsOf, List.eraseDups_append, List.removeAll]
  congr 2
  refine List.filter_congr fun link _ => ?_
  rw [List.elem_eq_mem, decide_not]

/-- **What a tree made from joints is.** It holds the joints as they were given; its links
are those given, then those that joints mention first, each once; a link names the one
joint whose child it is, and the root alone names none; there is one more link than
joints; no name that it holds is asked for in vain; and asking for the joint above, again
and again, comes from any link to the root, by no link twice and in no more steps than
there are joints. -/
theorem ofJoints_representation {name : String} {joints : List (Joint α)} {extra : List String}
    {tree : Tree α} (h : ofJoints name joints extra = .ok tree) :
    tree.joints = joints ∧
    tree.linkNames =
      extra.eraseDups ++ ((endsOf joints).filter fun link => link ∉ extra).eraseDups ∧
    (∀ l ∈ tree.links,
      (l.parentJoint = none ↔ l.name = tree.root) ∧
      ∀ n, l.parentJoint = some n ↔
        ∃ j ∈ joints, j.name = n ∧ j.child = l.name ∧ ∀ k ∈ joints, k.child = l.name → k = j) ∧
    tree.root ∈ tree.linkNames ∧
    tree.links.length = tree.joints.length + 1 ∧
    (∀ link ∈ tree.linkNames, ∃ l ∈ tree.links, tree.link link = .ok l ∧ l.name = link) ∧
    (∀ n ∈ tree.jointNames, ∃ j ∈ tree.joints, tree.joint n = .ok j ∧ j.name = n) ∧
    (∀ link ∈ tree.linkNames, ∃ above, tree.parentJoint link = .ok above) ∧
    ∀ link ∈ tree.linkNames, ∃ n ≤ tree.joints.length, tree.ascend n link = .ok (some tree.root) ∧
      ∀ i k, i < k → k ≤ n → tree.ascend i link ≠ tree.ascend k link := by
  have hrooted := isRooted_of_ofJoints h
  obtain ⟨root, hcons, -, rfl⟩ := ofJoints_eq_ok_iff.1 h
  refine ⟨rfl, ?_, fun l hl => ?_, hrooted.root_mem, hrooted.length_links, fun link hlink => ?_,
    fun n hn => ?_, fun link hlink => ⟨_, hrooted.parentJoint_of_mem hlink⟩,
    fun link hlink => hrooted.exists_ascend_root hlink⟩
  · rw [linkNames_treeOf, linksOf_eq]
  · have hlink : l.name ∈ (treeOf name joints extra root).linkNames := List.mem_map_of_mem hl
    rw [hrooted.hung l hl, Option.map_eq_none_iff]
    refine ⟨hrooted.jointAbove?_eq_none_iff hlink, fun n => ?_⟩
    rw [Option.map_eq_some_iff]
    constructor
    · rintro ⟨j, hj, rfl⟩
      obtain ⟨hj, hchild⟩ := mem_of_jointAbove? hj
      exact ⟨j, hj, rfl, hchild, fun k hk hkl =>
        eq_of_child_eq hcons.children hk hj (hkl.trans hchild.symm)⟩
    · rintro ⟨j, hj, rfl, hchild, -⟩
      exact ⟨j, (jointAbove?_eq_some hcons.children).2 ⟨hj, hchild⟩, rfl⟩
  · obtain ⟨l, hl, rfl⟩ := List.mem_map.1 hlink
    refine ⟨l, hl, ?_, rfl⟩
    rw [Tree.link, (find?_eq_some_iff_of_nodup Link.name hrooted.links).2 ⟨hl, rfl⟩]
  · obtain ⟨j, hj, rfl⟩ := List.mem_map.1 hn
    exact ⟨j, hj, hrooted.joint_of_mem hj, rfl⟩

/-- A post with a head and an arm on it. -/
def armJoints : List (Joint Float) :=
  [.weld "lift" "base" "post", .weld "neck" "post" "head", .weld "shoulder" "post" "arm",
    .weld "wrist" "arm" "hand"]

/-- The tree of the arm, whose head was given first. -/
def armTree : Tree Float := treeOf "arm" armJoints ["head"] "base"

/-- **The hand of the arm** is four joints or fewer below the base. -/
theorem ofJoints_representation_arm :
    ofJoints "arm" armJoints ["head"] = .ok armTree ∧
      armTree.linkNames = ["head", "base", "post", "arm", "hand"] ∧
      ∃ n ≤ 4, armTree.ascend n "hand" = .ok (some "base") := by
  have h : ofJoints "arm" armJoints ["head"] = .ok armTree := by cbv
  obtain ⟨-, hlinks, -, -, -, -, -, -, hup⟩ := ofJoints_representation h
  have hnames : armTree.linkNames = ["head", "base", "post", "arm", "hand"] :=
    hlinks.trans (by decide)
  obtain ⟨n, hn, hroot, -⟩ := hup "hand" (by rw [hnames]; decide)
  exact ⟨h, hnames, n, hn, hroot⟩

/-! ### A tree made again -/

/-- **Links that are given with all that joints mention** are collected as they stand. -/
theorem linksOf_eq_self {joints : List (Joint α)} {links : List String} (hn : links.Nodup)
    (hends : endsOf joints ⊆ links) : linksOf joints links = links := by
  have hnone : ((endsOf joints).filter fun link => link ∉ links) = [] := by
    rw [List.filter_eq_nil_iff]
    intro link hlink
    simpa using hends hlink
  rw [linksOf_eq, hnone, eraseDups_eq_self hn, List.eraseDups_nil, List.append_nil]

/-- The links that were collected are collected again in the same order. -/
theorem linksOf_linksOf (joints : List (Joint α)) (extra : List String) :
    linksOf joints (linksOf joints extra) = linksOf joints extra := by
  refine linksOf_eq_self (nodup_linksOf joints extra) fun link hlink => ?_
  exact mem_linksOf.2 (Or.inr (mem_endsOf.1 hlink))

/-- **To give all links beforehand changes nothing**: there is the same tree, or the same fault
with the same links in it. -/
theorem ofJoints_linksOf (name : String) (joints : List (Joint α)) (extra : List String) :
    ofJoints name joints (linksOf joints extra) = ofJoints name joints extra := by
  rw [ofJoints, ofJoints, linksOf_linksOf]

/-- **A tree is made again from what it holds.** Its name, its joints and the names of its links,
each in the order in which the tree has them, are a description that is accepted, and the tree of
that description is the same: it has the same root, and the same links and joints in the same
order, with the same joint above each link. -/
theorem ofJoints_remade {name : String} {joints : List (Joint α)} {extra : List String}
    {tree : Tree α} (h : ofJoints name joints extra = .ok tree) :
    ofJoints tree.name tree.joints tree.linkNames = .ok tree := by
  obtain ⟨root, -, -, rfl⟩ := ofJoints_eq_ok_iff.1 h
  rw [linkNames_treeOf]
  exact (ofJoints_linksOf name joints extra).trans h

/-- **The arm made again** has its head before its base, though no joint mentions it first. -/
theorem ofJoints_remade_arm :
    ofJoints "arm" armJoints ["head"] = .ok armTree ∧
      ofJoints "arm" armJoints ["head", "base", "post", "arm", "hand"] = .ok armTree := by
  have h : ofJoints "arm" armJoints ["head"] = .ok armTree := by cbv
  have hnames : armTree.linkNames = ["head", "base", "post", "arm", "hand"] := by cbv
  have hremade := ofJoints_remade h
  rw [hnames] at hremade
  exact ⟨h, hremade⟩

end Tree

end Linkage
