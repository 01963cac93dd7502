import Linkage.Proofs.UncheckedTrees

/-!
# Joints in another order

A description lists its joints and its links in some order, and everything that is done with the
lists goes through them from the front: looking for what is there twice, collecting the links, and
going down from the root. The order is kept, as the links and the joints of the tree come in it.
Nothing else comes of it.

What makes this true is that no condition on a description speaks of places. A joint hangs one link
below another wherever it stands in the list, so the same links are reached from the same root
(`Linkage.reaches_perm_iff`), and lists without repetitions stay so in any order
(`Linkage.Consistent.perm`). A search for the first thing with some name does look at the order, but
where names are not there twice the first is the only one (`Linkage.find?_eq_of_perm`). That is the
one place where it matters that a description has been accepted.

Two trees that differ in order only (`Linkage.Tree.SameButOrder`) therefore have the same answer to
every question about a link, a joint or a chain, refusals included.

* `Linkage.Tree.ofJoints_eq_ok_of_perm` – a description in another order is accepted too;
* `Linkage.Tree.SameButOrder.path_eq` – chains cross the same joints, or are refused alike.
-/

namespace Linkage

variable {α : Type}

/-! ### Lists in another order -/

/-- **In a list in which no name is there twice**, what a name finds does not depend on the
order. -/
theorem find?_eq_of_perm {β : Type} (name : β → String) {xs ys : List β} (h : xs.Perm ys)
    (hn : (xs.map name).Nodup) (key : String) :
    xs.find? (name · == key) = ys.find? (name · == key) := by
  have hn' : (ys.map name).Nodup := (h.map name).nodup_iff.1 hn
  refine Option.ext fun x => ?_
  rw [find?_eq_some_iff_of_nodup name hn, find?_eq_some_iff_of_nodup name hn', h.mem_iff]

section Descriptions

variable {joints joints' : List (Joint α)} {extra extra' : List String}

theorem hangs_eq_of_perm (h : joints.Perm joints') : Hangs joints = Hangs joints' := by
  funext upper lower
  simp only [Hangs, h.mem_iff]

/-- **The same links are reached**, whatever the order of the joints. -/
theorem reaches_perm_iff (h : joints.Perm joints') {upper lower : String} :
    Reaches joints upper lower ↔ Reaches joints' upper lower := by
  rw [Reaches, hangs_eq_of_perm h]

theorem mentions_perm_iff (hjoints : joints.Perm joints') (hextra : extra.Perm extra')
    {link : String} : Mentions joints extra link ↔ Mentions joints' extra' link := by
  simp only [Mentions, hjoints.mem_iff, hextra.mem_iff]

theorem isTop_perm_iff (h : joints.Perm joints') {link : String} :
    IsTop joints link ↔ IsTop joints' link := by
  simp only [IsTop, h.mem_iff]

/-- The same links are collected. -/
theorem linksOf_perm (hjoints : joints.Perm joints') (hextra : extra.Perm extra') :
    (linksOf joints extra).Perm (linksOf joints' extra') := by
  refine (List.perm_ext_iff_of_nodup (nodup_linksOf joints extra)
    (nodup_linksOf joints' extra')).2 fun link => ?_
  rw [mem_linksOf, mem_linksOf, mentions_perm_iff hjoints hextra]

/-- **Consistent joints are consistent in any order**, with the same root. -/
theorem Consistent.perm {root : String} (h : Consistent joints extra root)
    (hjoints : joints.Perm joints') (hextra : extra.Perm extra') :
    Consistent joints' extra' root where
  named j hj := h.named j (hjoints.mem_iff.2 hj)
  names := (hjoints.map (·.name)).nodup_iff.1 h.names
  children := (hjoints.map (·.child)).nodup_iff.1 h.children
  top link := by
    rw [← mentions_perm_iff hjoints hextra, ← isTop_perm_iff hjoints]
    exact h.top link

end Descriptions

namespace Tree

/-! ### Trees that differ in order only -/

/-- **Trees that differ in order only**: they have the same name and root, the same links with the
same joint above each, and the same joints. -/
structure SameButOrder (tree tree' : Tree α) : Prop where
  name_eq : tree'.name = tree.name
  root_eq : tree'.root = tree.root
  links_perm : tree.links.Perm tree'.links
  joints_perm : tree.joints.Perm tree'.joints

section Descriptions

variable {joints joints' : List (Joint α)} {extra extra' : List String} {root : String}

/-- **The trees of one description in two orders** differ in nothing else. -/
theorem sameButOrder_treeOf (name : String) (hcons : Consistent joints extra root)
    (hjoints : joints.Perm joints') (hextra : extra.Perm extra') :
    SameButOrder (treeOf name joints extra root) (treeOf name joints' extra' root) where
  name_eq := rfl
  root_eq := rfl
  links_perm := by
    have habove : ∀ link, jointAbove? joints link = jointAbove? joints' link :=
      find?_eq_of_perm Joint.child hjoints hcons.children
    simp only [treeOf, habove]
    exact (linksOf_perm hjoints hextra).map _
  joints_perm := hjoints

/-- **A description that is accepted is accepted in any order**, and its tree differs in order
only. -/
theorem ofJoints_eq_ok_of_perm {name : String} {tree : Tree α}
    (h : ofJoints name joints extra = .ok tree) (hjoints : joints.Perm joints')
    (hextra : extra.Perm extra') :
    ∃ tree', ofJoints name joints' extra' = .ok tree' ∧ SameButOrder tree tree' := by
  obtain ⟨root, hcons, hreach, rfl⟩ := ofJoints_eq_ok_iff.1 h
  refine ⟨treeOf name joints' extra' root, ofJoints_eq_ok_iff.2 ⟨root, ?_, ?_, rfl⟩, ?_⟩
  · exact hcons.perm hjoints hextra
  · intro link hlink
    have hlink : Mentions joints extra link := (mentions_perm_iff hjoints hextra).2 hlink
    exact (reaches_perm_iff hjoints).1 (hreach link hlink)
  · exact sameButOrder_treeOf name hcons hjoints hextra

end Descriptions

/-! ### The same answers -/

namespace SameButOrder

variable {tree tree' : Tree α} {above above' : ParentLinks}

theorem mem_linkNames_iff (hsame : SameButOrder tree tree') {link : String} :
    link ∈ tree.linkNames ↔ link ∈ tree'.linkNames :=
  (hsame.links_perm.map (·.name)).mem_iff

/-- A link is found under its name, with the same joint above it. -/
theorem link_eq (hsame : SameButOrder tree tree') (h : tree.IsRooted) (link : String) :
    tree'.link link = tree.link link := by
  rw [Tree.link, Tree.link, find?_eq_of_perm Link.name hsame.links_perm h.links]

/-- A joint is found under its name. -/
theorem joint_eq (hsame : SameButOrder tree tree') (h : tree.IsRooted) (name : String) :
    tree'.joint name = tree.joint name := by
  rw [Tree.joint, Tree.joint, find?_eq_of_perm Joint.name hsame.joints_perm h.names]

/-- **The tables say the same of every link.** -/
theorem lookup_eq (hsame : SameButOrder tree tree') (h : tree.IsRooted) (h' : tree'.IsRooted)
    (habove : tree.parentLinks = .ok above) (habove' : tree'.parentLinks = .ok above')
    (link : String) : above'.lookup link = above.lookup link := by
  obtain rfl := Except.ok.inj
    (habove.symm.trans (h.parentLinksOf_eq (List.Subset.refl tree.links)))
  obtain rfl := Except.ok.inj
    (habove'.symm.trans (h'.parentLinksOf_eq (List.Subset.refl tree'.links)))
  refine Option.ext fun parent => ?_
  rw [h'.lookup_entries_iff, h.lookup_entries_iff]
  simp only [hsame.joints_perm.mem_iff]

/-- **A chain crosses the same joints or is refused alike.** There are three cases, as a climb comes
by its root, goes past the root of the tree, or cannot start. -/
theorem path_eq (hsame : SameButOrder tree tree') (h : tree.IsRooted) (h' : tree'.IsRooted)
    (habove : tree.parentLinks = .ok above) (habove' : tree'.parentLinks = .ok above')
    (root tip : String) : tree'.path above' root tip = tree.path above root tip := by
  by_cases hr : Reaches tree.joints root tip
  · obtain ⟨js, hjs⟩ := reaches_iff_leads.1 hr
    have hjs' : Leads tree'.joints root js tip := hjs.mono hsame.joints_perm.subset
    rw [h.path_of_leads habove hjs, h'.path_of_leads habove' hjs']
  have hr' : ¬Reaches tree'.joints root tip := by
    intro hr'
    exact hr ((reaches_perm_iff hsame.joints_perm).2 hr')
  by_cases htip : tip ∈ tree.linkNames
  · have htip' : tip ∈ tree'.linkNames := hsame.mem_linkNames_iff.1 htip
    rw [h.path_of_not_reaches habove htip hr, h'.path_of_not_reaches habove' htip' hr',
      hsame.root_eq]
  · have hne : root ≠ tip := by
      rintro rfl
      exact hr Relation.ReflTransGen.refl
    have htip' : tip ∉ tree'.linkNames := fun hmem => htip (hsame.mem_linkNames_iff.2 hmem)
    rw [path_of_not_mem tree above hne htip, path_of_not_mem tree' above' hne htip']

theorem pathNames_eq (hsame : SameButOrder tree tree') (h : tree.IsRooted) (h' : tree'.IsRooted)
    (habove : tree.parentLinks = .ok above) (habove' : tree'.parentLinks = .ok above')
    (root tip : String) (withFixed : Bool) :
    tree'.pathNames above' root tip withFixed = tree.pathNames above root tip withFixed := by
  rw [pathNames, pathNames, hsame.path_eq h h' habove habove']

theorem continuousNames_eq (hsame : SameButOrder tree tree') (h : tree.IsRooted)
    (h' : tree'.IsRooted) (habove : tree.parentLinks = .ok above)
    (habove' : tree'.parentLinks = .ok above') (root tip : String) :
    tree'.continuousNames above' root tip = tree.continuousNames above root tip := by
  have hjoint : tree'.joint = tree.joint := funext (hsame.joint_eq h)
  rw [continuousNames, continuousNames, hsame.pathNames_eq h h' habove habove', hjoint]

end SameButOrder

/-- **Joints and links in another order.** A description is accepted exactly if it is in any other
order. Both trees then have the same root, the same links with the same joint above each and the
same joints. They answer alike when they are asked for a link, a joint or what is above a link, and
chains between whatever names cross the same joints, or are refused for the same reason. -/
theorem ofJoints_perm (name : String) {joints joints' : List (Joint α)}
    {extra extra' : List String} (hjoints : joints.Perm joints') (hextra : extra.Perm extra') :
    ((∃ tree, ofJoints name joints extra = .ok tree) ↔
      ∃ tree', ofJoints name joints' extra' = .ok tree') ∧
    ∀ tree tree', ofJoints name joints extra = .ok tree →
      ofJoints name joints' extra' = .ok tree' →
      SameButOrder tree tree' ∧
      (∀ link, tree'.link link = tree.link link) ∧
      (∀ joint, tree'.joint joint = tree.joint joint) ∧
      ∃ above above', tree.parentLinks = .ok above ∧ tree'.parentLinks = .ok above' ∧
        (∀ link, above'.lookup link = above.lookup link) ∧
        ∀ root tip,
          (∀ withFixed, tree'.pathNames above' root tip withFixed =
            tree.pathNames above root tip withFixed) ∧
          tree'.continuousNames above' root tip = tree.continuousNames above root tip := by
  refine ⟨⟨?_, ?_⟩, fun tree tree' h h' => ?_⟩
  · rintro ⟨tree, h⟩
    obtain ⟨tree', h', -⟩ := ofJoints_eq_ok_of_perm h hjoints hextra
    exact ⟨tree', h'⟩
  · rintro ⟨tree', h'⟩
    obtain ⟨tree, h, -⟩ := ofJoints_eq_ok_of_perm h' hjoints.symm hextra.symm
    exact ⟨tree, h⟩
  · obtain ⟨made, hmade, hsame⟩ := ofJoints_eq_ok_of_perm h hjoints hextra
    obtain rfl : made = tree' := Except.ok.inj (hmade.symm.trans h')
    have hrooted := isRooted_of_ofJoints h
    have hrooted' := isRooted_of_ofJoints h'
    obtain ⟨above, habove, -⟩ := hrooted.exists_parentLinks
    obtain ⟨above', habove', -⟩ := hrooted'.exists_parentLinks
    exact ⟨hsame, hsame.link_eq hrooted, hsame.joint_eq hrooted, above, above', habove, habove',
      hsame.lookup_eq hrooted hrooted' habove habove', fun root tip =>
        ⟨hsame.pathNames_eq hrooted hrooted' habove habove' root tip,
          hsame.continuousNames_eq hrooted hrooted' habove habove' root tip⟩⟩

/-- **The arm listed from its hand up**, with its links given in another order. -/
theorem ofJoints_perm_arm :
    armJoints.Perm armJoints.reverse ∧ ["head", "hand"].Perm ["hand", "head"] ∧
    ∃ tree tree', ofJoints "arm" armJoints ["head", "hand"] = .ok tree ∧
      ofJoints "arm" armJoints.reverse ["hand", "head"] = .ok tree' ∧ SameButOrder tree tree' ∧
      ∃ above above', tree.parentLinks = .ok above ∧ tree'.parentLinks = .ok above' ∧
        tree'.pathNames above' "base" "hand" true = tree.pathNames above "base" "hand" true ∧
        tree'.pathNames above' "ghost" "hand" true = tree.pathNames above "ghost" "hand" true := by
  have hjoints : armJoints.Perm armJoints.reverse := (List.reverse_perm armJoints).symm
  have hextra : ["head", "hand"].Perm ["hand", "head"] := List.Perm.swap _ _ _
  have h : ofJoints "arm" armJoints ["head", "hand"] =
      .ok (treeOf "arm" armJoints ["head", "hand"] "base") := by cbv
  obtain ⟨hiff, hsame⟩ := ofJoints_perm "arm" hjoints hextra
  obtain ⟨tree', h'⟩ := hiff.1 ⟨_, h⟩
  obtain ⟨hdiffer, -, -, above, above', habove, habove', -, hnames⟩ := hsame _ _ h h'
  exact ⟨hjoints, hextra, _, tree', h, h', hdiffer, above, above', habove, habove',
    (hnames "base" "hand").1 true, (hnames "ghost" "hand").1 true⟩

end Tree

end Linkage
