import Linkage.Proofs.Building
import Linkage.Proofs.Path

/-!
# What is said of a chain

What goes wrong with a chain goes wrong in one of three places: its path may not exist, a
joint on it may have a type without a motion, or the settings of a joint that moves may
not do. `Linkage.ChainSound` says of a chain that none of this is the case, and
`Linkage.ChainFault` names the cause that is reported otherwise. Both speak of the joints
that lead from the root of the chain to its tip, and of nothing that the making of a robot
keeps.

Exactly one of the two holds of every chain: `Linkage.chainSound_or_fault` and
`Linkage.ChainFault.not_sound`.
-/

namespace Linkage

variable {α : Type} [Scalar α]

section Chains

variable (tree : Tree α) (weights thresholds : Settings α)

/-- **A chain that can be had**: joints lead from its root to its tip, each of a type that
has a motion, and for each that moves everything is set. -/
def ChainSound (key : ChainKey) : Prop :=
  ∃ js, Leads tree.joints key.1 js key.2 ∧ (∀ j ∈ js, j.type.IsModeled) ∧
    ∀ j ∈ js, j.isMoveable = true → j.IsSettled weights thresholds

/-- **What is reported of a chain that cannot be had.** A path that does not exist comes
first, then the uppermost joint without a motion, then the uppermost of the joints that
move and for which something is not set. -/
inductive ChainFault : ChainKey → Fault α → Prop
  /-- The tip is no link of the tree. -/
  | unknownTip {root tip : String} (hne : root ≠ tip) (htip : tip ∉ tree.linkNames) :
    ChainFault (root, tip) (.unknownLink tip)
  /-- The root is not above the tip. -/
  | astray {root tip : String} (htip : tip ∈ tree.linkNames)
      (hr : ¬Reaches tree.joints root tip) :
    ChainFault (root, tip) (.noParentJoint tree.root)
  /-- A joint has no motion, and those above it have. -/
  | noMotion {root tip : String} {pre post : List (Joint α)} {j : Joint α}
      (hjs : Leads tree.joints root (pre ++ j :: post) tip) (ht : ∀ i ∈ pre, i.type.IsModeled)
      (hj : ¬j.type.IsModeled) :
    ChainFault (root, tip) j.typeFault
  /-- All joints have motions, but for one that moves something is not set, and for those
  above it everything is. -/
  | unsettled {root tip : String} {pre post : List (Joint α)} {j : Joint α} {fault : Fault α}
      (hjs : Leads tree.joints root (pre ++ j :: post) tip)
      (ht : ∀ i ∈ pre ++ j :: post, i.type.IsModeled)
      (hs : ∀ i ∈ pre, i.isMoveable = true → i.IsSettled weights thresholds)
      (hj : j.isMoveable = true) (hf : j.SettingFault weights thresholds fault) :
    ChainFault (root, tip) fault

end Chains

variable {tree : Tree α} {weights thresholds : Settings α}

/-- **A chain can be had, or something is reported of it.** -/
theorem chainSound_or_fault (tree : Tree α) (weights thresholds : Settings α) (key : ChainKey) :
    ChainSound tree weights thresholds key ∨
      ∃ fault, ChainFault tree weights thresholds key fault := by
  obtain ⟨root, tip⟩ := key
  -- The path comes first, then the types along it, then the settings.
  by_cases hr : Reaches tree.joints root tip
  · obtain ⟨js, hjs⟩ := reaches_iff_leads.1 hr
    rcases forall_or_exists_first (fun j => j.type.IsModeled) js with
      ht | ⟨pre, j, post, rfl, ht, hj⟩
    · rcases forall_or_exists_first
          (fun j => j.isMoveable = true → j.IsSettled weights thresholds) js with
        hs | ⟨pre, j, post, rfl, hs, hj⟩
      · exact Or.inl ⟨js, hjs, ht, hs⟩
      · obtain ⟨hmove, hunsettled⟩ := Classical.not_imp.1 hj
        obtain ⟨fault, hf⟩ := (settled_or_fault weights thresholds j).resolve_left hunsettled
        exact Or.inr ⟨fault, .unsettled hjs ht hs hmove hf⟩
    · exact Or.inr ⟨j.typeFault, .noMotion hjs ht hj⟩
  · by_cases htip : tip ∈ tree.linkNames
    · exact Or.inr ⟨_, .astray htip hr⟩
    · refine Or.inr ⟨_, .unknownTip ?_ htip⟩
      rintro rfl
      exact hr Relation.ReflTransGen.refl

/-- **Nothing is reported of a chain that can be had.** -/
theorem ChainFault.not_sound (h : tree.IsRooted) {key : ChainKey} {fault : Fault α}
    (hf : ChainFault tree weights thresholds key fault) :
    ¬ChainSound tree weights thresholds key := by
  rintro ⟨ks, hks, ht, hs⟩
  cases hf with
  | unknownTip hne htip => exact htip (h.mem_linkNames_of_leads hks hne)
  | astray _ hr => exact hr hks.reaches
  | @noMotion root tip pre post j hjs _ hj =>
    rw [hks.unique h.children h.acyclic hjs] at ht
    exact hj (ht j (by simp))
  | @unsettled root tip pre post j _ hjs _ _ hmove hf =>
    rw [hks.unique h.children h.acyclic hjs] at hs
    exact (hs j (by simp) hmove).not_fault _ hf

/-- **What is reported of a chain** is that the tree, a type or a setting will not do. -/
theorem ChainFault.kind_mem {key : ChainKey} {fault : Fault α}
    (hf : ChainFault tree weights thresholds key fault) :
    fault.kind ∈ [Fault.Kind.integrity, .jointType, .missing, .invalid, .safety] := by
  cases hf with
  | unknownTip | astray => simp [Fault.kind]
  | noMotion => simp [Joint.kind_typeFault]
  | unsettled _ _ _ _ hf => cases hf <;> simp [Fault.kind]

end Linkage
