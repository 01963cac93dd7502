import Linkage.Proofs.Rooted
import Linkage.Tree.Path

/-!
# What a climb finds

A climb starts at the tip and knows nothing of the root but its name. It crosses the joint
above the link on which it stands, looks up in the table where that joint hangs, and goes
on from there. In a tree that is a tree the table agrees with the joints, so a climb goes
up the only way there is:

* if the root is on that way, the climb stops there, and what it has crossed is the one
  list of joints that leads down again (`Linkage.Tree.IsRooted.climb?_of_leads`);
* if it is not, the climb goes on to the root of the tree and finds no joint there
  (`Linkage.Tree.IsRooted.climb?_of_not_reaches`);
* if the tip is no link at all, that is found out at once.

In no case are more joints crossed than the tree has, so a climb ends.
-/

namespace Linkage

variable {α : Type}

namespace Tree

/-! ### Where a climb stops at once -/

/-- On the root a climb stops. -/
theorem climb?_self (tree : Tree α) (above : ParentLinks) (root : String)
    (n : Nat) : tree.climb? above root n root = some (.ok []) := by
  rw [climb?, if_pos rfl]

/-- From what is no link a climb cannot start. -/
theorem climb?_unknown (tree : Tree α) (above : ParentLinks) {root tip : String} (hne : tip ≠ root)
    (htip : tip ∉ tree.linkNames) (n : Nat) :
    tree.climb? above root n tip = some (.error (.unknownLink tip)) := by
  have hfind : tree.links.find? (·.name == tip) = none :=
    List.find?_eq_none.2 fun l hl hname => htip (beq_iff_eq.1 hname ▸ List.mem_map_of_mem hl)
  have hparent : tree.parentJoint tip = .error (.unknownLink tip) := by
    rw [parentJoint, link, hfind]
    rfl
  rw [climb?, if_neg hne, hparent]

/-- **A chain whose tip is no link** is refused as such. -/
theorem path_of_not_mem (tree : Tree α) (above : ParentLinks) {root tip : String}
    (hne : root ≠ tip) (htip : tip ∉ tree.linkNames) :
    tree.path above root tip = .error (.unknownLink tip) := by
  rw [path, climb?_unknown tree above hne.symm htip, Option.getD_some]

namespace IsRooted

variable {tree : Tree α} {above : ParentLinks}

/-! ### The table of a tree -/

/-- The entries for a list of links, each with the parent of the joint above it. -/
theorem parentLinksOf_eq (h : tree.IsRooted) {ls : List Link} (hls : ls ⊆ tree.links) :
    tree.parentLinksOf ls = .ok (ls.filterMap fun l =>
      (jointAbove? tree.joints l.name).map fun j => (l.name, j.parent)) := by
  induction ls with
  | nil => rfl
  | cons l ls ih =>
    obtain ⟨hl, hls⟩ := List.cons_subset.1 hls
    rw [parentLinksOf, h.hung l hl, ih hls, List.filterMap_cons]
    rcases hj : jointAbove? tree.joints l.name with _ | j
    · rfl
    · simp only [Option.map_some, h.joint_of_mem (mem_of_jointAbove? hj).1]
      rfl

/-- Where a joint is above a link, its parent is looked up. -/
theorem lookup_entries {joints : List (Joint α)} {ls : List Link} {link : String} {j : Joint α}
    (hj : jointAbove? joints link = some j) (hl : link ∈ ls.map (·.name)) :
    (ls.filterMap fun l =>
      (jointAbove? joints l.name).map fun j => (l.name, j.parent)).lookup link =
      some j.parent := by
  induction ls with
  | nil => exact absurd hl List.not_mem_nil
  | cons l ls ih =>
    rw [List.filterMap_cons]
    by_cases hlink : link = l.name
    · subst hlink
      rw [hj, Option.map_some]
      exact List.lookup_cons_self
    · have hrest := ih ((List.mem_cons.1 hl).resolve_left hlink)
      rcases jointAbove? joints l.name with _ | k
      · exact hrest
      · rw [Option.map_some, List.lookup_cons, beq_eq_false_iff_ne.2 hlink]
        exact hrest

/-- **A tree has a table**, and in it a joint's parent stands under the joint's child. -/
theorem exists_parentLinks (h : tree.IsRooted) :
    ∃ above, tree.parentLinks = .ok above ∧
      ∀ j ∈ tree.joints, above.lookup j.child = some j.parent := by
  refine ⟨_, h.parentLinksOf_eq (List.Subset.refl _), fun j hj => ?_⟩
  exact lookup_entries ((jointAbove?_eq_some h.children).2 ⟨hj, rfl⟩) (h.ends j hj).2

/-! ### Step by step -/

/-- Below a joint a climb crosses it. -/
theorem climb?_child (h : tree.IsRooted) (habove : tree.parentLinks = .ok above) {root : String}
    {j : Joint α} (hj : j ∈ tree.joints) (hne : j.child ≠ root) (n : Nat) :
    tree.climb? above root (n + 1) j.child =
      (tree.climb? above root n j.parent).map (·.map (· ++ [j])) := by
  obtain ⟨above', habove', hlookup⟩ := h.exists_parentLinks
  obtain rfl : above' = above := Except.ok.inj (habove'.symm.trans habove)
  rw [climb?, if_neg hne, h.parentJoint_of_mem (h.ends j hj).2,
    (jointAbove?_eq_some h.children).2 ⟨hj, rfl⟩]
  simp only [hlookup j hj]

/-- On the root of the tree a climb to another link finds no joint. -/
theorem climb?_root (h : tree.IsRooted) {root : String} (hne : tree.root ≠ root) (n : Nat) :
    tree.climb? above root n tree.root = some (.error (.noParentJoint tree.root)) := by
  rw [climb?, if_neg hne, h.parentJoint_of_mem h.root_mem,
    (h.jointAbove?_eq_none_iff h.root_mem).2 rfl]

/-! ### Whole climbs -/

/-- **A climb finds the way down.** -/
theorem climb?_of_leads (h : tree.IsRooted) (habove : tree.parentLinks = .ok above)
    {root tip : String} {js : List (Joint α)} (hjs : Leads tree.joints root js tip) {n : Nat}
    (hn : js.length ≤ n) : tree.climb? above root n tip = some (.ok js) := by
  induction js using List.reverseRecOn generalizing tip n with
  | nil =>
    rw [← leads_nil.1 hjs]
    exact climb?_self tree above root n
  | append_singleton js j ih =>
    obtain ⟨hleads, hj, rfl⟩ := leads_concat.1 hjs
    -- The climb does not stop here, as only the empty way leads back to its start.
    have hne : j.child ≠ root := by
      intro heq
      have hnil := (hjs.eq_nil_iff h.acyclic).2 heq.symm
      exact absurd hnil (by simp)
    rw [List.length_append, List.length_singleton] at hn
    obtain ⟨m, rfl⟩ : ∃ m, n = m + 1 := ⟨n - 1, by omega⟩
    rw [h.climb?_child habove hj hne, ih hleads (by omega)]
    rfl

/-- **A climb that does not come by its root fails at the root of the tree.** -/
theorem climb?_of_not_reaches (h : tree.IsRooted) (habove : tree.parentLinks = .ok above)
    {root tip : String} (hr : ¬Reaches tree.joints root tip) {ks : List (Joint α)}
    (hks : Leads tree.joints tree.root ks tip) {n : Nat} (hn : ks.length ≤ n) :
    tree.climb? above root n tip = some (.error (.noParentJoint tree.root)) := by
  induction ks using List.reverseRecOn generalizing tip n with
  | nil =>
    obtain rfl := leads_nil.1 hks
    exact h.climb?_root (fun heq => hr (heq ▸ Relation.ReflTransGen.refl)) n
  | append_singleton ks k ih =>
    obtain ⟨hleads, hk, rfl⟩ := leads_concat.1 hks
    have hne : k.child ≠ root := fun heq => hr (heq ▸ Relation.ReflTransGen.refl)
    rw [List.length_append, List.length_singleton] at hn
    obtain ⟨m, rfl⟩ : ∃ m, n = m + 1 := ⟨n - 1, by omega⟩
    rw [h.climb?_child habove hk hne,
      ih (fun hup => hr (hup.tail (hangs_of_mem hk))) hleads (by omega)]
    rfl

/-! ### The joints of a chain -/

/-- **The joints of a chain are those that lead from its root to its tip.** -/
theorem path_of_leads (h : tree.IsRooted) (habove : tree.parentLinks = .ok above)
    {root tip : String} {js : List (Joint α)} (hjs : Leads tree.joints root js tip) :
    tree.path above root tip = .ok js := by
  have hn : js.length ≤ tree.links.length := by
    have := hjs.length_le h.acyclic
    have := h.length_links
    omega
  rw [path, h.climb?_of_leads habove hjs hn, Option.getD_some]

/-- The names of a chain are those of its joints, the fixed ones left out or not. -/
theorem pathNames_of_leads (h : tree.IsRooted) (habove : tree.parentLinks = .ok above)
    {root tip : String} {js : List (Joint α)} (hjs : Leads tree.joints root js tip)
    (withFixed : Bool) :
    tree.pathNames above root tip withFixed =
      .ok ((js.filter fun j => withFixed || j.isMoveable).map (·.name)) := by
  rw [pathNames, h.path_of_leads habove hjs]
  rfl

/-- **A chain whose root is not above its tip** is refused at the root of the tree. -/
theorem path_of_not_reaches (h : tree.IsRooted) (habove : tree.parentLinks = .ok above)
    {root tip : String} (htip : tip ∈ tree.linkNames) (hr : ¬Reaches tree.joints root tip) :
    tree.path above root tip = .error (.noParentJoint tree.root) := by
  obtain ⟨ks, hks⟩ := reaches_iff_leads.1 (h.reached tip htip)
  have hn : ks.length ≤ tree.links.length := by
    have := hks.length_le h.acyclic
    have := h.length_links
    omega
  rw [path, h.climb?_of_not_reaches habove hr hks hn, Option.getD_some]

/-- **A climb between two links ends** before more joints are crossed than there are. -/
theorem isSome_climb? (h : tree.IsRooted) (habove : tree.parentLinks = .ok above) (root : String)
    {tip : String} (htip : tip ∈ tree.linkNames) :
    (tree.climb? above root tree.joints.length tip).isSome := by
  by_cases hr : Reaches tree.joints root tip
  · obtain ⟨js, hjs⟩ := reaches_iff_leads.1 hr
    rw [h.climb?_of_leads habove hjs (hjs.length_le h.acyclic), Option.isSome_some]
  · obtain ⟨ks, hks⟩ := reaches_iff_leads.1 (h.reached tip htip)
    rw [h.climb?_of_not_reaches habove hr hks (hks.length_le h.acyclic), Option.isSome_some]

/-- What is led to from somewhere else is a link. -/
theorem mem_linkNames_of_leads (h : tree.IsRooted) {root tip : String} {js : List (Joint α)}
    (hjs : Leads tree.joints root js tip) (hne : root ≠ tip) : tip ∈ tree.linkNames := by
  rcases List.eq_nil_or_concat' js with rfl | ⟨js, j, rfl⟩
  · exact absurd (leads_nil.1 hjs) hne
  · obtain ⟨-, hj, rfl⟩ := leads_concat.1 hjs
    exact (h.ends j hj).2

/-- Joints that lead somewhere have names of their own. -/
theorem nodup_names_of_leads (h : tree.IsRooted) {root tip : String} {js : List (Joint α)}
    (hjs : Leads tree.joints root js tip) : (js.map (·.name)).Nodup :=
  (List.nodup_map_iff_inj_on (hjs.nodup h.acyclic)).2 fun _ hj _ hk =>
    List.inj_on_of_nodup_map h.names (hjs.subset hj) (hjs.subset hk)

end IsRooted

theorem reaches_iff_eq_or_isAbove {joints : List (Joint α)} {root tip : String} :
    Reaches joints root tip ↔ root = tip ∨ IsAbove joints root tip := by
  refine Relation.reflTransGen_iff_eq_or_transGen.trans ?_
  rw [eq_comm]

/-- **The outcome of asking for a chain.** Between any two links of a tree made from
joints a climb ends. It succeeds exactly when the root is the tip or above it; what it
then gives is the names of the one list of joints that leads from the root to the tip, no
name twice, and none only if the two are one link. Otherwise the joint above the root of
the tree is reported missing. -/
theorem pathNames_outcome {name : String} {joints : List (Joint α)} {extra : List String}
    {tree : Tree α} (h : ofJoints name joints extra = .ok tree) :
    ∃ above, tree.parentLinks = .ok above ∧
      ∀ root ∈ tree.linkNames, ∀ tip ∈ tree.linkNames,
        (tree.climb? above root tree.joints.length tip).isSome ∧
        ((∃ names, tree.pathNames above root tip true = .ok names) ↔
          root = tip ∨ IsAbove tree.joints root tip) ∧
        (∀ names, tree.pathNames above root tip true = .ok names →
          names.Nodup ∧ (names = [] ↔ root = tip) ∧
          ∃ js, Leads tree.joints root js tip ∧ names = js.map (·.name) ∧
            ∀ ks, Leads tree.joints root ks tip → ks = js) ∧
        (¬(root = tip ∨ IsAbove tree.joints root tip) →
          tree.pathNames above root tip true = .error (.noParentJoint tree.root) ∧
          (Fault.noParentJoint tree.root : Fault α).kind = .integrity ∧
          (Fault.noParentJoint tree.root : Fault Float).message? =
            some ("Parent joint of link with name '" ++ tree.root ++ "' is missing.")) := by
  have hrooted := isRooted_of_ofJoints h
  obtain ⟨above, habove, -⟩ := hrooted.exists_parentLinks
  refine ⟨above, habove, fun root _ tip htip => ⟨hrooted.isSome_climb? habove root htip, ?_⟩⟩
  rw [← reaches_iff_eq_or_isAbove]
  by_cases hr : Reaches tree.joints root tip
  · obtain ⟨js, hjs⟩ := reaches_iff_leads.1 hr
    have hnames : tree.pathNames above root tip true = .ok (js.map (·.name)) := by
      rw [hrooted.pathNames_of_leads habove hjs]
      simp only [Bool.true_or, List.filter_true]
    rw [hnames]
    refine ⟨⟨fun _ => hr, fun _ => ⟨_, rfl⟩⟩, fun names hnames => ?_, fun hn => absurd hr hn⟩
    obtain rfl : js.map (·.name) = names := Except.ok.inj hnames
    refine ⟨hrooted.nodup_names_of_leads hjs, ?_, js, hjs, rfl, fun ks hks => ?_⟩
    · rw [List.map_eq_nil_iff]
      exact hjs.eq_nil_iff hrooted.acyclic
    · exact hks.unique hrooted.children hrooted.acyclic hjs
  · rw [pathNames, hrooted.path_of_not_reaches habove htip hr]
    refine ⟨⟨?_, fun h => absurd h hr⟩, ?_, fun _ => ⟨rfl, rfl, rfl⟩⟩
    · rintro ⟨names, hnames⟩
      exact absurd hnames (by simp [Except.map])
    · intro names hnames
      exact absurd hnames (by simp [Except.map])

/-- **From the base of the arm to its hand there is a chain**, and from its head there is
none. -/
theorem pathNames_outcome_arm :
    ∃ above, armTree.parentLinks = .ok above ∧
      (∃ names, armTree.pathNames above "base" "hand" true = .ok names ∧ names.Nodup) ∧
      armTree.pathNames above "head" "hand" true = .error (.noParentJoint "base") := by
  have h : ofJoints "arm" armJoints ["head"] = .ok armTree := by cbv
  have hlink : ∀ link ∈ ["head", "base", "hand"], link ∈ armTree.linkNames := by decide
  obtain ⟨above, habove, hall⟩ := pathNames_outcome h
  refine ⟨above, habove, ?_, ?_⟩
  · obtain ⟨-, hiff, hnames, -⟩ := hall "base" (hlink _ (by decide)) "hand" (hlink _ (by decide))
    have hleads : Leads armTree.joints "base"
        [.weld "lift" "base" "post", .weld "shoulder" "post" "arm", .weld "wrist" "arm" "hand"]
        "hand" := by
      simp only [leads_cons, leads_nil]
      decide
    obtain ⟨names, hok⟩ := hiff.2 (Or.inr (hleads.isAbove (List.cons_ne_nil _ _)))
    exact ⟨names, hok, (hnames names hok).1⟩
  · obtain ⟨-, -, -, herr⟩ := hall "head" (hlink _ (by decide)) "hand" (hlink _ (by decide))
    refine (herr ?_).1
    rintro (heq | habove)
    · exact absurd heq (by decide)
    · -- No joint hangs from the head.
      obtain ⟨_, ⟨j, hj, hparent, -⟩, -⟩ := Relation.TransGen.head'_iff.1 habove
      revert j
      decide

end Tree

end Linkage
