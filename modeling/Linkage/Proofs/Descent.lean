import Linkage.Tree.OfJoints
import Mathlib.Data.List.Induction
import Mathlib.Data.List.Nodup
import Mathlib.Data.List.Perm.Subperm
import Mathlib.Logic.Relation

/-!
# Going down

A link hangs right below another when a joint says so. What is below a link, at any
depth, is said here in two ways:

* `Linkage.Reaches` – one gets to the lower link by going down from the upper one. Going
  nowhere counts, so a link reaches itself; `Linkage.IsAbove` asks for one joint at least;
* `Linkage.Leads` – the same with the joints that are crossed on the way, from the top
  down. This is what a chain *is*, whoever computes it.

Two conditions on a list of joints make the way down unique. No link may hang below two
joints, so that the last joint of a way is known from where the way ends; and no link may
be above itself (`Linkage.Acyclic`), so that a way which ends where it began crosses
nothing. `Linkage.Leads.unique` is the induction from the tip that these two carry.

The last section is about the breadth-first search of `Linkage.reachedFrom`: it finds
what its start reaches and nothing else (`Linkage.mem_reachedFrom_iff`), whatever the
joints are.
-/

namespace Linkage

variable {α : Type}

/-! ### One link below another -/

/-- A joint hangs `lower` right below `upper`. -/
def Hangs (joints : List (Joint α)) (upper lower : String) : Prop :=
  ∃ j ∈ joints, j.parent = upper ∧ j.child = lower

/-- **Going down** from `upper`, one gets to `lower`, over any number of joints. -/
abbrev Reaches (joints : List (Joint α)) : String → String → Prop :=
  Relation.ReflTransGen (Hangs joints)

/-- **A link above another**: one gets from it to the other over at least one joint. -/
abbrev IsAbove (joints : List (Joint α)) : String → String → Prop :=
  Relation.TransGen (Hangs joints)

/-- No link is above itself. -/
def Acyclic (joints : List (Joint α)) : Prop := ∀ link, ¬IsAbove joints link link

/-- A link on a circle of links, or hanging below one. -/
def BelowCycle (joints : List (Joint α)) (link : String) : Prop :=
  ∃ round, IsAbove joints round round ∧ Reaches joints round link

variable {joints : List (Joint α)}

theorem hangs_of_mem {j : Joint α} (hj : j ∈ joints) : Hangs joints j.parent j.child :=
  ⟨j, hj, rfl, rfl⟩

/-- A joint is known from the link below it, if no link hangs below two. -/
theorem eq_of_child_eq (hc : (joints.map (·.child)).Nodup) {j k : Joint α} (hj : j ∈ joints)
    (hk : k ∈ joints) (h : j.child = k.child) : j = k :=
  List.inj_on_of_nodup_map hc hj hk h

/-! ### The joints on the way -/

/-- **The joints on a way down**, from the top: the first hangs below `upper`, each
further one below the child of the one before, and the child of the last is `lower`. -/
def Leads (joints : List (Joint α)) : String → List (Joint α) → String → Prop
  | upper, [], lower => upper = lower
  | upper, j :: js, lower => j ∈ joints ∧ j.parent = upper ∧ Leads joints j.child js lower

@[simp]
theorem leads_nil {upper lower : String} : Leads joints upper [] lower ↔ upper = lower := Iff.rfl

@[simp]
theorem leads_cons {upper lower : String} {j : Joint α} {js : List (Joint α)} :
    Leads joints upper (j :: js) lower ↔
      j ∈ joints ∧ j.parent = upper ∧ Leads joints j.child js lower := Iff.rfl

/-- A way may be cut anywhere. -/
theorem leads_append {upper lower : String} {js ks : List (Joint α)} :
    Leads joints upper (js ++ ks) lower ↔
      ∃ mid, Leads joints upper js mid ∧ Leads joints mid ks lower := by
  induction js generalizing upper with
  | nil => simp
  | cons j js ih =>
    rw [List.cons_append, leads_cons, ih]
    constructor
    · rintro ⟨hj, hup, mid, hjs, hks⟩
      exact ⟨mid, ⟨hj, hup, hjs⟩, hks⟩
    · rintro ⟨mid, ⟨hj, hup, hjs⟩, hks⟩
      exact ⟨hj, hup, mid, hjs, hks⟩

/-- The last joint of a way ends where the way ends. -/
theorem leads_concat {upper lower : String} {j : Joint α} {js : List (Joint α)} :
    Leads joints upper (js ++ [j]) lower ↔
      Leads joints upper js j.parent ∧ j ∈ joints ∧ j.child = lower := by
  rw [leads_append]
  constructor
  · rintro ⟨mid, hjs, hj, rfl, hlow⟩
    exact ⟨hjs, hj, hlow⟩
  · rintro ⟨hjs, hj, hlow⟩
    exact ⟨j.parent, hjs, hj, rfl, hlow⟩

namespace Leads

variable {upper lower : String} {js ks : List (Joint α)}

/-- Only joints of the list are crossed. -/
theorem subset (h : Leads joints upper js lower) : js ⊆ joints := by
  induction js generalizing upper with
  | nil => exact List.nil_subset _
  | cons j js ih => exact List.cons_subset.2 ⟨h.1, ih h.2.2⟩

/-- What leads somewhere among some joints still does among more. -/
theorem mono {more : List (Joint α)} (hsub : joints ⊆ more) (h : Leads joints upper js lower) :
    Leads more upper js lower := by
  induction js generalizing upper with
  | nil => exact h
  | cons j js ih => exact ⟨hsub h.1, h.2.1, ih h.2.2⟩

theorem reaches (h : Leads joints upper js lower) : Reaches joints upper lower := by
  induction js generalizing upper with
  | nil => rw [leads_nil.1 h]
  | cons j js ih =>
    obtain ⟨hj, rfl, hjs⟩ := h
    exact (ih hjs).head (hangs_of_mem hj)

/-- A way with a joint on it goes down for good. -/
theorem isAbove (h : Leads joints upper js lower) (hne : js ≠ []) : IsAbove joints upper lower := by
  cases js with
  | nil => exact absurd rfl hne
  | cons j js =>
    obtain ⟨hj, rfl, hjs⟩ := h
    exact Relation.TransGen.head' (hangs_of_mem hj) hjs.reaches

/-- **The empty way is the only one from a link to itself.** -/
theorem eq_nil_iff (ha : Acyclic joints) (h : Leads joints upper js lower) :
    js = [] ↔ upper = lower := by
  constructor
  · rintro rfl
    exact h
  · rintro rfl
    by_contra hne
    exact ha upper (h.isAbove hne)

/-- **There is one way at most.** From the tip up, the two ways cross the same joints: the
last joint is known from the tip, and neither way can stop before the other, as it would
then have come back to where it stopped. -/
theorem unique (hc : (joints.map (·.child)).Nodup) (ha : Acyclic joints)
    (hjs : Leads joints upper js lower) (hks : Leads joints upper ks lower) : js = ks := by
  induction js using List.reverseRecOn generalizing lower ks with
  | nil => exact ((hks.eq_nil_iff ha).2 hjs).symm
  | append_singleton js j ih =>
    obtain ⟨hjs', hj, rfl⟩ := leads_concat.1 hjs
    rcases List.eq_nil_or_concat' ks with rfl | ⟨ks', k, rfl⟩
    · exact (hjs.eq_nil_iff ha).2 hks
    · obtain ⟨hks', hk, hkj⟩ := leads_concat.1 hks
      obtain rfl : k = j := eq_of_child_eq hc hk hj hkj
      rw [ih hjs' hks']

/-- A way that crosses a joint twice has come round a circle on its way down. -/
theorem belowCycle_of_not_nodup (h : Leads joints upper js lower) (hn : ¬js.Nodup) :
    BelowCycle joints lower := by
  induction js generalizing upper with
  | nil => exact absurd List.nodup_nil hn
  | cons j js ih =>
    obtain ⟨hj, rfl, hjs⟩ := h
    by_cases hmem : j ∈ js
    · -- Crossed again later on, `j` leads from its child back to its parent.
      obtain ⟨before, after, rfl⟩ := List.append_of_mem hmem
      obtain ⟨mid, hbefore, hafter⟩ := leads_append.1 hjs
      obtain rfl : j.parent = mid := hafter.2.1
      exact ⟨j.parent, Relation.TransGen.head' (hangs_of_mem hj) hbefore.reaches, hafter.reaches⟩
    · exact ih hjs fun hd => hn (List.nodup_cons.2 ⟨hmem, hd⟩)

/-- No joint is crossed twice. -/
theorem nodup (ha : Acyclic joints) (h : Leads joints upper js lower) : js.Nodup := by
  by_contra hn
  obtain ⟨link, hlink, -⟩ := h.belowCycle_of_not_nodup hn
  exact ha link hlink

/-- A way crosses no more joints than there are. -/
theorem length_le (ha : Acyclic joints) (h : Leads joints upper js lower) :
    js.length ≤ joints.length :=
  (List.subperm_of_subset (h.nodup ha) h.subset).length_le

end Leads

/-- **Whatever is reached is led to.** -/
theorem reaches_iff_leads {upper lower : String} :
    Reaches joints upper lower ↔ ∃ js, Leads joints upper js lower := by
  refine ⟨fun h => ?_, fun ⟨js, hjs⟩ => hjs.reaches⟩
  induction h with
  | refl => exact ⟨[], rfl⟩
  | tail _ hstep ih =>
    obtain ⟨js, hjs⟩ := ih
    obtain ⟨j, hj, rfl, rfl⟩ := hstep
    exact ⟨js ++ [j], leads_concat.2 ⟨hjs, hj, rfl⟩⟩

/-! ### What the breadth-first search finds -/

/-- Right below a link are the children of the joints it carries. -/
theorem mem_childrenOf {upper lower : String} :
    lower ∈ childrenOf joints upper ↔ Hangs joints upper lower := by
  simp only [childrenOf, List.mem_map, List.mem_filter, beq_iff_eq, and_assoc, Hangs]

/-- What was looked at, and what waits in the queue, is found. -/
theorem subset_reachedFrom (joints : List (Joint α)) (visited queue : List String) :
    visited ++ queue ⊆ reachedFrom joints visited queue := by
  induction visited, queue using reachedFrom.induct joints with
  | case1 visited =>
    rw [reachedFrom, List.append_nil]
    exact List.Subset.refl _
  | case2 visited link queue h ih =>
    rw [reachedFrom, dif_pos h]
    intro x hx
    refine ih ?_
    simp only [List.mem_append, List.mem_cons] at hx ⊢
    rcases hx with hx | rfl | hx
    · exact Or.inl hx
    · exact Or.inl (List.contains_iff_mem.1 h)
    · exact Or.inr hx
  | case3 visited link queue h _ ih =>
    rw [reachedFrom, dif_neg h]
    intro x hx
    refine ih ?_
    simp only [List.mem_append, List.mem_cons, List.not_mem_nil, or_false] at hx ⊢
    rcases hx with hx | rfl | hx
    · exact Or.inl (Or.inl hx)
    · exact Or.inl (Or.inr rfl)
    · exact Or.inr (Or.inl hx)

/-- **The search finds only what is reached.** -/
theorem reaches_of_mem_reachedFrom {visited queue : List String} {x : String}
    (hx : x ∈ reachedFrom joints visited queue) :
    x ∈ visited ∨ ∃ q ∈ queue, Reaches joints q x := by
  induction visited, queue using reachedFrom.induct joints with
  | case1 visited =>
    rw [reachedFrom] at hx
    exact Or.inl hx
  | case2 visited link queue h ih =>
    rw [reachedFrom, dif_pos h] at hx
    rcases ih hx with hv | ⟨q, hq, hr⟩
    · exact Or.inl hv
    · exact Or.inr ⟨q, List.mem_cons_of_mem _ hq, hr⟩
  | case3 visited link queue h _ ih =>
    rw [reachedFrom, dif_neg h] at hx
    rcases ih hx with hv | ⟨q, hq, hr⟩
    · rcases List.mem_append.1 hv with hv | hv
      · exact Or.inl hv
      · rw [List.mem_singleton.1 hv]
        exact Or.inr ⟨link, List.mem_cons_self, Relation.ReflTransGen.refl⟩
    · rcases List.mem_append.1 hq with hq | hq
      · exact Or.inr ⟨q, List.mem_cons_of_mem _ hq, hr⟩
      · exact Or.inr ⟨link, List.mem_cons_self, hr.head (mem_childrenOf.1 hq)⟩

/-- **What the search finds is closed under going down**, as soon as all that hangs right
below a visited link is visited or waits in the queue. -/
theorem reachedFrom_closed {visited queue : List String}
    (hv : ∀ upper ∈ visited, ∀ lower, Hangs joints upper lower → lower ∈ visited ++ queue)
    {upper lower : String} (hu : upper ∈ reachedFrom joints visited queue)
    (hl : Hangs joints upper lower) : lower ∈ reachedFrom joints visited queue := by
  induction visited, queue using reachedFrom.induct joints with
  | case1 visited =>
    rw [reachedFrom] at hu ⊢
    simpa using hv upper hu lower hl
  | case2 visited link queue h ih =>
    rw [reachedFrom, dif_pos h] at hu ⊢
    refine ih (fun a ha b hb => ?_) hu
    rcases List.mem_append.1 (hv a ha b hb) with hb | hb
    · exact List.mem_append_left _ hb
    · rcases List.mem_cons.1 hb with rfl | hb
      · exact List.mem_append_left _ (List.contains_iff_mem.1 h)
      · exact List.mem_append_right _ hb
  | case3 visited link queue h _ ih =>
    rw [reachedFrom, dif_neg h] at hu ⊢
    -- From now on `link` is visited too, and what hangs below it waits.
    refine ih (fun a ha b hb => ?_) hu
    rcases List.mem_append.1 ha with ha | ha
    · have hb := hv a ha b hb
      simp only [List.mem_append, List.mem_cons, List.not_mem_nil, or_false] at hb ⊢
      tauto
    · rw [List.mem_singleton.1 ha] at hb
      exact List.mem_append_right _ (List.mem_append_right _ (mem_childrenOf.2 hb))

/-- **The search from a link finds exactly what the link reaches.** -/
theorem mem_reachedFrom_iff {root x : String} :
    x ∈ reachedFrom joints [] [root] ↔ Reaches joints root x := by
  constructor
  · intro hx
    rcases reaches_of_mem_reachedFrom hx with hx | ⟨q, hq, hr⟩
    · exact absurd hx List.not_mem_nil
    · rwa [← List.mem_singleton.1 hq]
  · intro hr
    induction hr with
    | refl => exact subset_reachedFrom joints [] [root] (by simp)
    | tail _ hstep ih => exact reachedFrom_closed (fun _ h => absurd h List.not_mem_nil) ih hstep

end Linkage
