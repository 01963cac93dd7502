import Linkage.Proofs.Loop
import Linkage.Proofs.Rooted

/-!
# The search turn by turn

Going down from a link is done with a queue (`Linkage.reachedFrom`). At every turn of that search
the link in front is taken. If it was looked at before, that was all; if not, it is looked at now,
and the links right below it are put at the end.

The turns of a search are counted by the links that wait together with the joints below links not
yet looked at. A turn makes these one fewer, whichever it is, also where joints go round in a
circle (`Linkage.Search.Turn.size_eq`), and it does not change what will have been found in the
end (`Linkage.Search.Turn.found_eq`). So a search ends, and always in the same way.

Whether a link is taken twice is another matter. It is if two joints lead to it. Where no link
hangs below two joints and the search begins at a link below none, the links looked at and those
that wait are all different at any time (`Linkage.Search.IsFresh`): a link is put into the queue
for the only joint above it, when the parent of that joint is looked at, and never again.

* `Linkage.Search.run_outcome` – any search, and those that the checks on joints allow.
-/

namespace Linkage

variable {α : Type}

/-- **A search that is under way**: the links looked at, in order, and those that wait. -/
structure Search where
  visited : List String
  queue : List String
  deriving Repr, DecidableEq

namespace Search

open Loop

/-- The search from a link, before its first turn. -/
def start (root : String) : Search := ⟨[], [root]⟩

/-- **A turn of a search** takes the link in front. -/
inductive Turn (joints : List (Joint α)) : Search → String → Search → Prop
  | skip {visited queue : List String} {link : String} (h : link ∈ visited) :
    Turn joints ⟨visited, link :: queue⟩ link ⟨visited, queue⟩
  | look {visited queue : List String} {link : String} (h : link ∉ visited) :
    Turn joints ⟨visited, link :: queue⟩ link
      ⟨visited ++ [link], queue ++ childrenOf joints link⟩

variable {joints : List (Joint α)} {root link : String} {links : List String} {s s' t : Search}

/-! ### Every search ends -/

/-- **What the search will have found** when it ends. -/
def found (joints : List (Joint α)) (s : Search) : List String :=
  reachedFrom joints s.visited s.queue

/-- **The turns that may be left**: the links that wait, and those that may still be put there. -/
def size (joints : List (Joint α)) (s : Search) : Nat :=
  (unexplored joints s.visited).length + s.queue.length

theorem found_ended (joints : List (Joint α)) (visited : List String) :
    found joints ⟨visited, []⟩ = visited := by
  rw [found, reachedFrom]

theorem size_start (joints : List (Joint α)) (root : String) :
    size joints (start root) = joints.length + 1 := by
  have hall : unexplored joints [] = joints := List.filter_eq_self.2 fun j _ => rfl
  rw [size, start, hall, List.length_singleton]

/-- **A turn changes nothing about what is found.** -/
theorem Turn.found_eq (h : Turn joints s link s') : s'.found joints = s.found joints := by
  cases h with
  | skip hmem => rw [found, found, reachedFrom, dif_pos (List.contains_iff_mem.2 hmem)]
  | look hmem => rw [found, found, reachedFrom, dif_neg fun h => hmem (List.contains_iff_mem.1 h)]

/-- **A turn is one fewer to be made.** To look at a link puts as many links into the queue as
there are joints below it, and these are no longer unexplored. -/
theorem Turn.size_eq (h : Turn joints s link s') : s'.size joints + 1 = s.size joints := by
  cases h with
  | skip hmem => rw [size, size, List.length_cons, Nat.add_assoc]
  | look hmem =>
    have hnew := Bool.eq_false_iff.2 fun h => hmem (List.contains_iff_mem.1 h)
    have hbelow := length_unexplored_append joints hnew
    simp only [size, List.length_append, List.length_cons]
    omega

/-- While a link waits there is a turn to be made. -/
theorem exists_turn (joints : List (Joint α)) (h : s.queue ≠ []) :
    ∃ link s', Turn joints s link s' := by
  rcases s with ⟨visited, _ | ⟨link, queue⟩⟩
  · exact absurd rfl h
  · by_cases hmem : link ∈ visited
    · exact ⟨link, _, .skip hmem⟩
    · exact ⟨link, _, .look hmem⟩

/-- **The search is run to its end**, and then the links looked at are those found. -/
theorem exists_run (joints : List (Joint α)) (visited queue : List String) :
    ∃ links, Run (Turn joints) ⟨visited, queue⟩ links ⟨reachedFrom joints visited queue, []⟩ := by
  induction visited, queue using reachedFrom.induct joints with
  | case1 visited =>
    rw [reachedFrom]
    exact ⟨[], .stay _⟩
  | case2 visited link queue h ih =>
    rw [reachedFrom, dif_pos h]
    obtain ⟨links, hrun⟩ := ih
    exact ⟨link :: links, .go (.skip (List.contains_iff_mem.1 h)) hrun⟩
  | case3 visited link queue h _ ih =>
    rw [reachedFrom, dif_neg h]
    obtain ⟨links, hrun⟩ := ih
    exact ⟨link :: links, .go (.look fun hmem => h (List.contains_iff_mem.2 hmem)) hrun⟩

/-- What is found is the same at any time. -/
theorem found_eq_of_run (h : Run (Turn joints) s links t) : t.found joints = s.found joints :=
  h.unchanged fun _ _ _ hturn => hturn.found_eq

/-! ### No link is taken twice -/

/-- **The links looked at and those that wait are all different**, and each but the root waits
because a link that it hangs below was looked at. -/
structure IsFresh (joints : List (Joint α)) (root : String) (s : Search) : Prop where
  nodup : (s.visited ++ s.queue).Nodup
  below : ∀ link ∈ s.visited ++ s.queue,
    link = root ∨ ∃ upper ∈ s.visited, Hangs joints upper link

theorem isFresh_start (joints : List (Joint α)) (root : String) :
    (start root).IsFresh joints root where
  nodup := List.nodup_singleton root
  below _ hlink := Or.inl (List.mem_singleton.1 hlink)

/-- **A link in front of the queue was not looked at.** -/
theorem IsFresh.not_mem_visited (h : s.IsFresh joints root) (hturn : Turn joints s link s') :
    link ∉ s.visited := by
  have hdisjoint := List.disjoint_of_nodup_append h.nodup
  cases hturn with
  | skip hmem | look hmem => exact fun hv => hdisjoint hv List.mem_cons_self

section OneJointAbove

variable (hc : (joints.map (·.child)).Nodup) (htop : IsTop joints root)

include hc htop

/-- **What is put into the queue was neither looked at nor waiting**, as it would have been put
there for a joint above it, and the only such joint hangs below the link that is looked at now. -/
theorem IsFresh.look {visited queue : List String}
    (h : IsFresh joints root ⟨visited, link :: queue⟩) :
    IsFresh joints root ⟨visited ++ [link], queue ++ childrenOf joints link⟩ := by
  have hsame : (visited ++ [link]) ++ (queue ++ childrenOf joints link) =
      (visited ++ link :: queue) ++ childrenOf joints link := by simp
  have hlink : link ∉ visited := fun hv =>
    List.disjoint_of_nodup_append h.nodup hv List.mem_cons_self
  have hchildren : (childrenOf joints link).Nodup := (List.filter_sublist.map _).nodup hc
  constructor
  · rw [hsame, List.nodup_append']
    refine ⟨h.nodup, hchildren, fun lower hlower hchild => ?_⟩
    -- Were it there already, it would hang below a link looked at, which `link` was not.
    obtain ⟨j, hj, hparent, hjc⟩ := mem_childrenOf.1 hchild
    rcases h.below lower hlower with rfl | ⟨upper, hupper, k, hk, rfl, hkc⟩
    · exact htop j hj hjc
    · obtain rfl := eq_of_child_eq hc hj hk (hjc.trans hkc.symm)
      exact hlink (hparent ▸ hupper)
  · intro lower hlower
    rw [hsame, List.mem_append] at hlower
    rcases hlower with hlower | hchild
    · exact (h.below lower hlower).imp_right fun ⟨upper, hupper, hhangs⟩ =>
        ⟨upper, List.mem_append_left _ hupper, hhangs⟩
    · exact Or.inr ⟨link, List.mem_append_right _ List.mem_cons_self, mem_childrenOf.1 hchild⟩

/-- **A turn looks at the link it takes**, and the links stay different. -/
theorem IsFresh.turn (h : s.IsFresh joints root) (hturn : Turn joints s link s') :
    s'.IsFresh joints root ∧ s'.visited = s.visited ++ [link] := by
  have hnew := h.not_mem_visited hturn
  cases hturn with
  | skip hmem => exact absurd hmem hnew
  | look _ => exact ⟨h.look hc htop, rfl⟩

/-- **The links looked at in a run are those that it takes**, in that order. -/
theorem IsFresh.run (hrun : Run (Turn joints) s links t) (h : s.IsFresh joints root) :
    t.IsFresh joints root ∧ t.visited = s.visited ++ links := by
  induction hrun with
  | stay s => exact ⟨h, (List.append_nil _).symm⟩
  | go hturn _ ih =>
    obtain ⟨hnext, hvisited⟩ := h.turn hc htop hturn
    obtain ⟨hend, hlinks⟩ := ih hnext
    exact ⟨hend, by rw [hlinks, hvisited, List.append_assoc, List.singleton_append]⟩

end OneJointAbove

/-- Only links of the description are looked at or wait. -/
theorem IsFresh.mentions {extra : List String} (h : s.IsFresh joints root)
    (hroot : Mentions joints extra root) (hlink : link ∈ s.visited ++ s.queue) :
    Mentions joints extra link := by
  rcases h.below link hlink with rfl | ⟨_, _, j, hj, -, rfl⟩
  · exact hroot
  · exact (mentions_ends hj).2

/-! ### The search from a link -/

/-- **How a search goes.** From any link, and whatever the joints are, it comes to an end, as it
has no more turns than there are joints, and one, and there is another turn for as long as a link
waits. The links that it has looked at in the end are those that are reached by going down. If no
link hangs below two joints and the search begins at a link below none, then at any time it has
looked at the links taken so far, no link was taken twice, the next one to be taken was not looked
at, and the turns are no more than there are links. -/
theorem run_outcome (joints : List (Joint α)) (root : String) :
    (∃ taken, Run (Turn joints) (start root) taken ⟨reachedFrom joints [] [root], []⟩) ∧
    (∀ link, link ∈ reachedFrom joints [] [root] ↔ Reaches joints root link) ∧
    ∀ taken s, Run (Turn joints) (start root) taken s →
      taken.length ≤ joints.length + 1 ∧
      (s.queue ≠ [] → ∃ link s', Turn joints s link s') ∧
      (s.queue = [] → s.visited = reachedFrom joints [] [root]) ∧
      ((joints.map (·.child)).Nodup → IsTop joints root →
        s.visited = taken ∧ taken.Nodup ∧
        (∀ link s', Turn joints s link s' → link ∉ s.visited) ∧
        ∀ extra, root ∈ linksOf joints extra → taken.length ≤ (linksOf joints extra).length) := by
  refine ⟨exists_run joints [] [root], fun link => mem_reachedFrom_iff, fun taken s hrun =>
    ⟨?_, exists_turn joints, fun hqueue => ?_, fun hc htop => ?_⟩⟩
  · have hcount := hrun.length_add fun _ _ _ hturn => hturn.size_eq
    rw [size_start] at hcount
    omega
  · obtain ⟨visited, queue⟩ := s
    obtain rfl : queue = [] := hqueue
    have hfound := found_eq_of_run hrun
    rwa [found_ended] at hfound
  · obtain ⟨hfresh, hvisited⟩ := IsFresh.run hc htop hrun (isFresh_start joints root)
    -- Nothing was looked at before the first turn.
    obtain rfl : s.visited = taken := hvisited
    have hnodup : s.visited.Nodup := hfresh.nodup.of_append_left
    refine ⟨rfl, hnodup, fun link s' hturn => hfresh.not_mem_visited hturn, fun extra hroot => ?_⟩
    have hsub : s.visited ⊆ linksOf joints extra := fun link hlink =>
      mem_linksOf.2 (hfresh.mentions (mem_linksOf.1 hroot) (List.mem_append_left _ hlink))
    exact (List.subperm_of_subset hnodup hsub).length_le

/-- **The arm is gone down once**: from its base, and over no more turns than it has links. -/
theorem run_outcome_arm :
    ∃ taken, Run (Turn Tree.armJoints) (start "base") taken
        ⟨reachedFrom Tree.armJoints [] ["base"], []⟩ ∧
      reachedFrom Tree.armJoints [] ["base"] = taken ∧ taken.Nodup ∧ "hand" ∈ taken ∧
      taken.length ≤ 5 := by
  obtain ⟨⟨taken, hrun⟩, hreach, hall⟩ := run_outcome Tree.armJoints "base"
  obtain ⟨-, -, -, honce⟩ := hall taken _ hrun
  obtain ⟨hvisited, hnodup, -, hlinks⟩ := honce (by decide) (by unfold IsTop; decide)
  have hway : Leads Tree.armJoints "base" [.weld "lift" "base" "post",
      .weld "shoulder" "post" "arm", .weld "wrist" "arm" "hand"] "hand" :=
    ⟨by decide, rfl, by decide, rfl, by decide, rfl, rfl⟩
  have hhand : "hand" ∈ taken := hvisited ▸ (hreach "hand").2 hway.reaches
  exact ⟨taken, hrun, hvisited, hnodup, hhand, hlinks [] (by decide)⟩

end Search

end Linkage
