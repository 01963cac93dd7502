import Linkage.Proofs.UncheckedTrees

/-!
# A chain in two parts

A chain that comes by a link may be cut in two there. What is found for the whole chain is found for
its parts, the upper one first, and no joint is on both. That is so because there is only one way
down to the tip, and the ways to the link and from it make one up: the climb for the whole chain
cannot but come by the link, and does so once.

Of names the same is true, whatever is asked for: all of them, those of joints that can be moved, or
those of continuous ones (`Linkage.Tree.pathNames_append`).
-/

namespace Linkage

variable {α : Type}

namespace Tree

theorem namesOf_append (withFixed : Bool) (js ks : List (Joint α)) :
    namesOf withFixed (js ++ ks) = namesOf withFixed js ++ namesOf withFixed ks := by
  rw [namesOf, List.filter_append, List.map_append, ← namesOf, ← namesOf]

/-- Leaving out the names of fixed joints leaves no name that was not there. -/
theorem namesOf_sublist (withFixed : Bool) (js : List (Joint α)) :
    (namesOf withFixed js).Sublist (js.map (·.name)) :=
  List.filter_sublist.map _

/-- Lists without a common member are had one after the other, each member once. -/
theorem eraseDups_append_of_disjoint {β : Type} [BEq β] [LawfulBEq β] {xs ys : List β}
    (h : xs.Disjoint ys) : (xs ++ ys).eraseDups = xs.eraseDups ++ ys.eraseDups := by
  have hkeep : ys.removeAll xs = ys := by
    rw [List.removeAll, List.filter_eq_self]
    intro y hy
    simpa using fun hx => h hx hy
  rw [List.eraseDups_append, hkeep]

namespace IsRooted

variable {tree : Tree α} {above : ParentLinks} {a b c : String} {js ks : List (Joint α)}

/-- What leads somewhere is found in the tree, joint by joint. -/
theorem joint_of_leads (h : tree.IsRooted) (hjs : Leads tree.joints a js b) :
    ∀ j ∈ js, tree.joint j.name = .ok j :=
  fun _ hj => h.joint_of_mem (hjs.subset hj)

/-- **The parts of a way share no name.** -/
theorem disjoint_namesOf (h : tree.IsRooted) (hjs : Leads tree.joints a js b)
    (hks : Leads tree.joints b ks c) (withFixed : Bool) :
    (namesOf withFixed js).Disjoint (namesOf withFixed ks) := by
  have hnodup := h.nodup_names_of_leads (leads_append.2 ⟨b, hjs, hks⟩)
  have hparts := hnodup.sublist (namesOf_sublist withFixed (js ++ ks))
  rw [namesOf_append] at hparts
  exact List.disjoint_of_nodup_append hparts

end IsRooted

/-- **The names on a chain are those on its parts**, and so are the names of its continuous joints,
wherever between its ends it is cut. No name is on both parts. -/
theorem pathNames_append {name : String} {joints : List (Joint α)} {extra : List String}
    {tree : Tree α} (h : ofJoints name joints extra = .ok tree) :
    ∃ above, tree.parentLinks = .ok above ∧
      ∀ a b c, Reaches tree.joints a b → Reaches tree.joints b c →
        (∀ withFixed, ∃ upper lower, tree.pathNames above a b withFixed = .ok upper ∧
          tree.pathNames above b c withFixed = .ok lower ∧
          tree.pathNames above a c withFixed = .ok (upper ++ lower) ∧ upper.Disjoint lower) ∧
        ∃ upper lower, tree.continuousNames above a b = .ok upper ∧
          tree.continuousNames above b c = .ok lower ∧
          tree.continuousNames above a c = .ok (upper ++ lower) ∧ upper.Disjoint lower := by
  have hrooted := isRooted_of_ofJoints h
  obtain ⟨above, habove, -⟩ := hrooted.exists_parentLinks
  refine ⟨above, habove, fun a b c hab hbc => ?_⟩
  obtain ⟨js, hjs⟩ := reaches_iff_leads.1 hab
  obtain ⟨ks, hks⟩ := reaches_iff_leads.1 hbc
  have hwhole : Leads tree.joints a (js ++ ks) c := leads_append.2 ⟨b, hjs, hks⟩
  refine ⟨fun withFixed => ⟨namesOf withFixed js, namesOf withFixed ks,
    hrooted.pathNames_of_leads habove hjs withFixed,
    hrooted.pathNames_of_leads habove hks withFixed, ?_,
    hrooted.disjoint_namesOf hjs hks withFixed⟩, ?_⟩
  · rw [hrooted.pathNames_of_leads habove hwhole, ← namesOf, namesOf_append]
  · -- What is continuous is sorted out of all names, in each part by itself.
    have hnames := fun {a b : String} {ls : List (Joint α)} (hls : Leads tree.joints a ls b) =>
      continuousNames_of_path (hrooted.path_of_leads habove hls) (hrooted.joint_of_leads hls)
    have hparts : List.Disjoint
        ((namesOf true js).filter fun name => decide (tree.typeOf? name = some .continuous))
        ((namesOf true ks).filter fun name => decide (tree.typeOf? name = some .continuous)) :=
      fun _ hup hlow =>
        hrooted.disjoint_namesOf hjs hks true (List.mem_filter.1 hup).1 (List.mem_filter.1 hlow).1
    refine ⟨_, _, hnames hjs, hnames hks, ?_, fun name hup hlow => ?_⟩
    · rw [hnames hwhole, namesOf_append, List.filter_append, eraseDups_append_of_disjoint hparts]
    · exact hparts (List.mem_eraseDups.1 hup) (List.mem_eraseDups.1 hlow)

/-- A bicycle, as far as its front wheel: the fork turns in the frame and the hub on the fork, and
the tire is fixed to the hub. -/
def bikeJoints : List (Joint Float) :=
  [⟨"stem", .continuous, "frame", "fork", .rest, Joint.defaultAxis, none⟩,
    ⟨"axle", .continuous, "fork", "hub", .rest, Joint.defaultAxis, none⟩,
    .weld "bead" "hub" "tire"]

/-- **From the frame to the tire** of the bicycle, cut at the fork. -/
theorem pathNames_append_bike :
    ∃ tree above, ofJoints "bike" bikeJoints [] = .ok tree ∧ tree.parentLinks = .ok above ∧
      Reaches tree.joints "frame" "fork" ∧ Reaches tree.joints "fork" "tire" ∧
      (∃ upper lower, tree.pathNames above "frame" "fork" true = .ok upper ∧
        tree.pathNames above "fork" "tire" true = .ok lower ∧
        tree.pathNames above "frame" "tire" true = .ok (upper ++ lower) ∧ upper.Disjoint lower) ∧
      ∃ upper lower, tree.continuousNames above "frame" "fork" = .ok upper ∧
        tree.continuousNames above "fork" "tire" = .ok lower ∧
        tree.continuousNames above "frame" "tire" = .ok (upper ++ lower) ∧
          upper.Disjoint lower := by
  have h : ofJoints "bike" bikeJoints [] = .ok (treeOf "bike" bikeJoints [] "frame") := by cbv
  have hupper : Leads bikeJoints "frame" (bikeJoints.take 1) "fork" := by
    refine ⟨?_, rfl, rfl⟩
    simp [bikeJoints]
  have hlower : Leads bikeJoints "fork" (bikeJoints.drop 1) "tire" := by
    refine ⟨?_, rfl, ?_, rfl, rfl⟩ <;> simp [bikeJoints]
  obtain ⟨above, habove, hcut⟩ := pathNames_append h
  obtain ⟨hall, hcontinuous⟩ := hcut _ _ _ hupper.reaches hlower.reaches
  exact ⟨_, above, h, habove, hupper.reaches, hlower.reaches, hall true, hcontinuous⟩

end Tree

end Linkage
