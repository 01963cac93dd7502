import Linkage.Proofs.Verdict
import Linkage.Robot

/-!
# When a robot can be made

A robot is made chain by chain, and it can be made if each of the chains that are asked
for is sound (`Linkage.ChainSound`). Otherwise the first that is not is reported, with the
cause that `Linkage.ChainFault` names.

What the robot keeps could interfere. A chain that was asked for before is not worked out
again, and a joint that has its constraints is passed over, so a defect might be missed the
second time or reported for the wrong chain. It is not, because of what holds of every
robot in the making: the joints that it has constrained are settled
(`Linkage.Robot.InMaking`), and the chains that it has are sound
(`Linkage.Robot.InOrder`). What is skipped was found to be in order before.

* `Linkage.Robot.addChain_of_sound`, `Linkage.Robot.addChain_of_fault` – one chain more;
* `Linkage.Robot.addChains_outcome` – all chains that are asked for;
* `Linkage.Robot.compile_outcome` – the robot of a list of requests.
-/

namespace Linkage

variable {α : Type} [Scalar α] {tree : Tree α} {weights thresholds : Settings α}

omit [Scalar α] in
/-- Handing out a variable is what makes its joint have one. -/
theorem Variables.contains_assign (vs : Variables) (fresh : Nat) (name other : String) :
    (vs.assign fresh name).2.1.contains other = true ↔ vs.contains other = true ∨ other = name := by
  constructor
  · intro h
    unfold assign at h
    split at h
    · exact Or.inl h
    · rw [contains, push, find?, List.find?_append, Option.isSome_or, Bool.or_eq_true] at h
      refine h.imp id fun hlast => ?_
      by_contra hne
      exact absurd hlast (by simp [Ne.symm hne])
  · rintro (h | rfl)
    · unfold assign
      split
      · exact h
      · rw [contains, push, find?, List.find?_append, Option.isSome_or, Bool.or_eq_true]
        exact Or.inl h
    · rw [contains, find?_assign, Option.isSome_some]

/-! ### What a robot keeps while it is made -/

namespace Robot

/-- **What is taken for granted** of a tree and settings: that the tree is one, and that
numbers are what they are declared to be. -/
structure Proper (tree : Tree α) (weights thresholds : Settings α) : Prop where
  rooted : tree.IsRooted
  measured : ∀ j ∈ tree.joints, j.IsMeasured
  weights : ∀ e ∈ weights, e.2.HasScalar
  thresholds : ∀ e ∈ thresholds, e.2.HasScalar

/-- **A robot that has kept what it was given**: a tree with its table, a root and settings. -/
structure MadeFrom (tree : Tree α) (root : String) (weights thresholds : Settings α)
    (r : Robot α) : Prop where
  tree_eq : r.tree = tree
  root_eq : r.root = root
  above_eq : tree.parentLinks = .ok r.above
  weights_eq : r.weights = weights
  thresholds_eq : r.thresholds = thresholds

/-- **A robot in the making**, of a tree and settings: it has kept what it was given, and
for every joint that it has constrained everything is set. -/
structure InMaking (tree : Tree α) (root : String) (weights thresholds : Settings α)
    (r : Robot α) : Prop where
  tree_eq : r.tree = tree
  root_eq : r.root = root
  above_eq : tree.parentLinks = .ok r.above
  weights_eq : r.weights = weights
  thresholds_eq : r.thresholds = thresholds
  settled : ∀ j ∈ tree.joints, r.isConstrained j.name = true → j.IsSettled weights thresholds

variable {root : String} {r : Robot α}

theorem InMaking.madeFrom (hr : InMaking tree root weights thresholds r) :
    MadeFrom tree root weights thresholds r :=
  ⟨hr.tree_eq, hr.root_eq, hr.above_eq, hr.weights_eq, hr.thresholds_eq⟩

omit [Scalar α] in
/-- What is built for a robot changes no more than the next number. -/
theorem build_eq_ok {β : Type} {b : Builder α β} {x : β} {n : Nat}
    (h : b r.nextId = .ok (x, n)) : r.build b = .ok (x, { r with nextId := n }) := by
  rw [build, h]
  rfl

omit [Scalar α] in
theorem build_eq_error {β : Type} {b : Builder α β} {fault : Fault α}
    (h : b r.nextId = .error fault) : r.build b = .error ⟨fault, r.log⟩ := by
  rw [build, h]
  rfl

omit [Scalar α] in
/-- **Handing out inputs** changes the variables, the numbers and the record, and after it
the joints that had an input have it still and those named have one. -/
theorem assignAll_eq (r : Robot α) (names : List String) :
    ∃ vs n log, r.assignAll names = { r with inputs := vs, nextId := n, log := log } ∧
      (∀ name, r.inputs.contains name = true → vs.contains name = true) ∧
      ∀ name ∈ names, vs.contains name = true := by
  induction names generalizing r with
  | nil =>
    exact ⟨r.inputs, r.nextId, r.log, rfl, fun _ h => h, fun _ h => absurd h List.not_mem_nil⟩
  | cons name names ih =>
    rw [assignAll]
    split
    · rename_i hname
      obtain ⟨vs, n, log, heq, hkeep, hnew⟩ := ih r
      exact ⟨vs, n, log, heq, hkeep, List.forall_mem_cons.2 ⟨hkeep name hname, hnew⟩⟩
    · obtain ⟨vs, n, log, heq, hkeep, hnew⟩ := ih
        (({ r with
            inputs := (r.inputs.assign r.nextId name).2.1
            nextId := (r.inputs.assign r.nextId name).2.2 } : Robot α).write
          (.assigned name (r.inputs.assign r.nextId name).1.index))
      have hkeep' : ∀ other, r.inputs.contains other = true ∨ other = name →
          vs.contains other = true := fun other h =>
        hkeep other ((r.inputs.contains_assign r.nextId name other).2 h)
      exact ⟨vs, n, log, heq, fun other h => hkeep' other (Or.inl h),
        List.forall_mem_cons.2 ⟨hkeep' name (Or.inr rfl), hnew⟩⟩

/-! ### Joint by joint -/

/-- **A joint whose two constraints can be built is constrained**, if it was not before. -/
theorem constrain_of_built {name : String} {j : Joint α} {v : Variable} {c : Controllable α}
    {b : Option (Hard α)} {n m : Nat} (hdone : r.isConstrained name = false)
    (hj : r.tree.joint name = .ok j) (hv : r.joint name = .ok v)
    (hc : j.controllable v r.weights r.thresholds r.nextId = .ok (c, n))
    (hb : j.hard v n = .ok (b, m)) :
    r.constrain name = .ok { r with
      controllable := r.controllable ++ [c], hard := r.hard ++ b.toList, nextId := m } := by
  rw [constrain, if_neg (by simp [hdone]), hj, show r.inputs.lookup name = .ok v from hv]
  change (r.build _ >>= _) = _
  rw [build_eq_ok hc]
  change (Robot.build { r with nextId := n } _ >>= _) = _
  rw [build_eq_ok hb]
  rfl

/-- **A joint for which everything is set is constrained**, or was before. The inputs, the
chains and all that was given stay as they are. -/
theorem constrain_of_settled (hp : Proper tree weights thresholds)
    (hr : InMaking tree root weights thresholds r) {j : Joint α} (hj : j ∈ tree.joints)
    (hv : r.inputs.contains j.name = true) (hs : j.IsSettled weights thresholds) :
    ∃ r', r.constrain j.name = .ok r' ∧ InMaking tree root weights thresholds r' ∧
      r'.inputs = r.inputs ∧ r'.frames = r.frames := by
  obtain ⟨rfl, rfl, habove, rfl, rfl, hsettled⟩ := hr
  rcases hdone : r.isConstrained j.name with _ | _
  · obtain ⟨v, hlookup⟩ := exists_lookup (α := α) hv
    obtain ⟨-, limits, -, -, hl, -⟩ := id hs
    obtain ⟨c, n, hc, hname⟩ := exists_controllable_of_isSettled (hp.measured j hj) hp.weights
      hp.thresholds hs v r.nextId
    obtain ⟨b, m, hb⟩ := exists_hard hl v n
    refine ⟨_, constrain_of_built hdone (hp.rooted.joint_of_mem hj) hlookup hc hb,
      ⟨rfl, rfl, habove, rfl, rfl, fun i hi hdone => ?_⟩, rfl, rfl⟩
    -- Constrained are those that were, and `j`.
    rw [isConstrained, List.any_append, Bool.or_eq_true] at hdone
    rcases hdone with hbefore | hnow
    · exact hsettled i hi hbefore
    · have heq : j.name = i.name := by simpa [hname] using hnow
      rwa [← List.inj_on_of_nodup_map hp.rooted.names hj hi heq]
  · refine ⟨r, ?_, ⟨rfl, rfl, habove, rfl, rfl, hsettled⟩, rfl, rfl⟩
    rw [constrain, if_pos hdone]
    rfl

/-- **A joint for which something is not set is not constrained**, and was not before. -/
theorem constrain_of_fault (hp : Proper tree weights thresholds)
    (hr : InMaking tree root weights thresholds r) {j : Joint α} (hj : j ∈ tree.joints)
    (hv : r.inputs.contains j.name = true) {fault : Fault α}
    (hf : j.SettingFault weights thresholds fault) :
    r.constrain j.name = .error ⟨fault, r.log⟩ := by
  obtain ⟨rfl, rfl, habove, rfl, rfl, hsettled⟩ := hr
  -- The joint is not passed over either: what is constrained is settled.
  have hdone : ¬r.isConstrained j.name = true := by
    intro hdone
    exact (hsettled j hj hdone).not_fault fault hf
  obtain ⟨v, hlookup⟩ := exists_lookup (α := α) hv
  rw [constrain, if_neg hdone, hp.rooted.joint_of_mem hj, hlookup]
  change (r.build _ >>= _) = _
  rw [build_eq_error (controllable_eq_error hp.weights hf v r.nextId)]
  rfl

/-- **Joints for which everything is set are constrained.** -/
theorem constrainAll_of_settled (hp : Proper tree weights thresholds)
    (hr : InMaking tree root weights thresholds r) {js : List (Joint α)}
    (hjs : js ⊆ tree.joints) (hv : ∀ j ∈ js, r.inputs.contains j.name = true)
    (hs : ∀ j ∈ js, j.IsSettled weights thresholds) :
    ∃ r', r.constrainAll (js.map (·.name)) = .ok r' ∧ InMaking tree root weights thresholds r' ∧
      r'.inputs = r.inputs ∧ r'.frames = r.frames := by
  induction js generalizing r with
  | nil => exact ⟨r, rfl, hr, rfl, rfl⟩
  | cons j js ih =>
    obtain ⟨hj, hjs⟩ := List.cons_subset.1 hjs
    rw [List.forall_mem_cons] at hv hs
    obtain ⟨r', hok, hr', hinputs, hframes⟩ := constrain_of_settled hp hr hj hv.1 hs.1
    obtain ⟨r'', hok', hr'', hinputs', hframes'⟩ := ih hr' hjs (hinputs ▸ hv.2) hs.2
    refine ⟨r'', ?_, hr'', hinputs'.trans hinputs, hframes'.trans hframes⟩
    rw [List.map_cons, constrainAll, hok]
    exact hok'

/-- **The first joint for which something is not set is reported.** -/
theorem constrainAll_of_fault (hp : Proper tree weights thresholds)
    (hr : InMaking tree root weights thresholds r) {pre post : List (Joint α)} {j : Joint α}
    (hjs : pre ++ [j] ⊆ tree.joints)
    (hv : ∀ i ∈ pre ++ [j], r.inputs.contains i.name = true)
    (hs : ∀ i ∈ pre, i.IsSettled weights thresholds) {fault : Fault α}
    (hf : j.SettingFault weights thresholds fault) :
    ∃ log, r.constrainAll ((pre ++ j :: post).map (·.name)) = .error ⟨fault, log⟩ := by
  induction pre generalizing r with
  | nil =>
    refine ⟨r.log, ?_⟩
    rw [List.nil_append, List.map_cons, constrainAll,
      constrain_of_fault hp hr (hjs List.mem_cons_self) (hv j List.mem_cons_self) hf]
    rfl
  | cons i pre ih =>
    rw [List.cons_append] at hjs hv
    obtain ⟨hi, hjs⟩ := List.cons_subset.1 hjs
    rw [List.forall_mem_cons] at hv hs
    obtain ⟨r', hok, hr', hinputs, -⟩ := constrain_of_settled hp hr hi hv.1 hs.1
    obtain ⟨log, herr⟩ := ih hr' hjs (hinputs ▸ hv.2) hs.2
    refine ⟨log, ?_⟩
    rw [List.cons_append, List.map_cons, constrainAll, hok]
    exact herr

/-! ### Chain by chain -/

/-- **After inputs were handed out to the joints that move**, each of them has one, and what
was given, the chains and the joints that are constrained are as before. -/
theorem InMaking.assigned_moving (hr : InMaking tree root weights thresholds r)
    (js : List (Joint α)) :
    InMaking tree root weights thresholds
        (r.assignAll ((js.filter Joint.isMoveable).map (·.name))) ∧
      (r.assignAll ((js.filter Joint.isMoveable).map (·.name))).frames = r.frames ∧
      ∀ j ∈ js, j.isMoveable = true →
        (r.assignAll ((js.filter Joint.isMoveable).map (·.name))).inputs.contains j.name := by
  obtain ⟨vs, n, log, heq, -, hvars⟩ := r.assignAll_eq ((js.filter Joint.isMoveable).map (·.name))
  rw [heq]
  refine ⟨⟨hr.tree_eq, hr.root_eq, hr.above_eq, hr.weights_eq, hr.thresholds_eq, hr.settled⟩,
    rfl, fun j hj hmove => ?_⟩
  exact hvars j.name (List.mem_map_of_mem (List.mem_filter.2 ⟨hj, hmove⟩))

/-- What is left to be done for a chain once its joints are known, those that move and all,
and inputs have been handed out. -/
def equip (r : Robot α) (key : ChainKey) (moving all : List String) :
    Except (Failure α) (Robot α) := do
  let ((_, frames), r) ← r.build (r.frames.getOrBuild r.tree r.inputs key all)
  let r := { r with frames, chains := r.chains ++ [key] }
  let r ← r.constrainAll moving
  return r.write (.compiled key all.length)

/-- **A chain with a path** that the robot does not have yet is gone through. -/
theorem addChain_of_leads (h : tree.IsRooted) (hr : MadeFrom tree root weights thresholds r)
    {key : ChainKey} (hkey : r.frames.contains key = false) {js : List (Joint α)}
    (hjs : Leads tree.joints key.1 js key.2) :
    r.addChain key =
      (r.assignAll ((js.filter Joint.isMoveable).map (·.name))).equip key
        ((js.filter Joint.isMoveable).map (·.name)) (js.map (·.name)) := by
  obtain ⟨rfl, rfl, habove, rfl, rfl⟩ := hr
  rw [addChain, if_neg (by simp [hkey]), h.pathNames_of_leads habove hjs,
    h.pathNames_of_leads habove hjs]
  simp only [Bool.true_or, Bool.false_or, List.filter_true]
  rfl

/-- A chain without a path is refused before anything is done for it. -/
theorem addChain_of_path_error (hr : MadeFrom tree root weights thresholds r) {key : ChainKey}
    (hkey : r.frames.contains key = false) {fault : Fault α}
    (hpath : tree.path r.above key.1 key.2 = .error fault) :
    r.addChain key = .error ⟨fault, r.log⟩ := by
  obtain ⟨rfl, -, -, -, -⟩ := hr
  rw [addChain, if_neg (by simp [hkey]), Tree.pathNames, hpath]
  rfl

omit [Scalar α] in
/-- A table with one chain more has that chain and those that it had. -/
theorem contains_append {t : FrameTable α} {key other : ChainKey} {f : FrameExpr α} :
    FrameTable.contains ⟨t.entries ++ [(key, f)]⟩ other = true ↔
      t.contains other = true ∨ other = key := by
  rw [FrameTable.contains, List.lookup_append, Option.isSome_or, Bool.or_eq_true,
    FrameTable.contains]
  refine or_congr_right ?_
  rw [List.lookup_cons]
  by_cases hkey : other = key
  · simp [hkey]
  · simp [beq_eq_false_iff_ne.2 hkey, hkey]

section Equip

variable {key : ChainKey}

/-- **A chain of joints that can be planned gets its frame.** What is left is to constrain those of
them that move. -/
theorem equip_of_framed (htree : r.tree.IsRooted) (hkey : r.frames.contains key = false)
    {js : List (Joint α)} (hjs : js ⊆ r.tree.joints) (hframed : ∀ j ∈ js, j.IsFramed r.inputs)
    (moving : List String) :
    ∃ f n, r.equip key moving (js.map (·.name)) =
      constrainAll { r with
        nextId := n, frames := ⟨r.frames.entries ++ [(key, f)]⟩, chains := r.chains ++ [key] }
        moving >>= fun r' => .ok (r'.write (.compiled key (js.map (·.name)).length)) := by
  obtain ⟨ps, hps⟩ := exists_planOf (fun j hj => htree.joint_of_mem (hjs hj)) hframed
  have hbuilt : ∃ f n, r.frames.getOrBuild r.tree r.inputs key (js.map (·.name)) r.nextId =
      .ok ((f, ⟨r.frames.entries ++ [(key, f)]⟩), n) := by
    rw [FrameTable.getOrBuild_of_not_contains hkey, chainFrame_eq, hps]
    exact ⟨_, _, rfl⟩
  obtain ⟨f, n, hbuilt⟩ := hbuilt
  refine ⟨f, n, ?_⟩
  rw [equip, build_eq_ok hbuilt]
  rfl

/-- **A chain of settled joints with motions is had.** -/
theorem equip_of_sound (hp : Proper tree weights thresholds)
    (hr : InMaking tree root weights thresholds r) (hkey : r.frames.contains key = false)
    {js : List (Joint α)} (hjs : js ⊆ tree.joints) (ht : ∀ j ∈ js, j.type.IsModeled)
    (hv : ∀ j ∈ js, j.isMoveable = true → r.inputs.contains j.name = true)
    (hs : ∀ j ∈ js, j.isMoveable = true → j.IsSettled weights thresholds) :
    ∃ r', r.equip key ((js.filter Joint.isMoveable).map (·.name)) (js.map (·.name)) = .ok r' ∧
      InMaking tree root weights thresholds r' ∧
      ∀ other, r'.frames.contains other = true → r.frames.contains other = true ∨ other = key := by
  obtain ⟨rfl, rfl, habove, rfl, rfl, hsettled⟩ := hr
  obtain ⟨f, n, hequip⟩ := equip_of_framed hp.rooted hkey hjs
    (fun j hj => (hp.measured j (hjs hj)).isFramed (ht j hj) (hv j hj))
    ((js.filter Joint.isMoveable).map (·.name))
  have hmaking : InMaking r.tree r.root r.weights r.thresholds
      { r with nextId := n, frames := ⟨r.frames.entries ++ [(key, f)]⟩,
               chains := r.chains ++ [key] } :=
    ⟨rfl, rfl, habove, rfl, rfl, hsettled⟩
  have hmoving : ∀ {j}, j ∈ js.filter Joint.isMoveable → j ∈ js ∧ j.isMoveable = true :=
    List.mem_filter.1
  obtain ⟨r', hok, hr', -, hframes⟩ := constrainAll_of_settled hp hmaking
    (fun j hj => hjs (hmoving hj).1) (fun j hj => hv j (hmoving hj).1 (hmoving hj).2)
    (fun j hj => hs j (hmoving hj).1 (hmoving hj).2)
  refine ⟨r'.write (.compiled key (js.map (·.name)).length), ?_,
    ⟨hr'.tree_eq, hr'.root_eq, hr'.above_eq, hr'.weights_eq, hr'.thresholds_eq, hr'.settled⟩,
    fun other hother => ?_⟩
  · rw [hequip, hok, ok_bind]
  · rw [write, hframes] at hother
    exact contains_append.1 hother

/-- **A chain with a joint that has no motion is refused.** -/
theorem equip_of_noMotion (hp : Proper tree weights thresholds)
    (hr : InMaking tree root weights thresholds r) (hkey : r.frames.contains key = false)
    {pre post : List (Joint α)} {j : Joint α} (hjs : pre ++ j :: post ⊆ tree.joints)
    (ht : ∀ i ∈ pre, i.type.IsModeled) (hj : ¬j.type.IsModeled)
    (hv : ∀ i ∈ pre, i.isMoveable = true → r.inputs.contains i.name = true)
    (moving : List String) :
    r.equip key moving ((pre ++ j :: post).map (·.name)) = .error ⟨j.typeFault, r.log⟩ := by
  obtain ⟨rfl, -, -, -, -, -⟩ := hr
  have hsub : ∀ i ∈ pre ++ [j], i ∈ r.tree.joints := by
    intro i hi
    refine hjs ?_
    rw [List.append_cons]
    exact List.mem_append_left _ hi
  rw [List.forall_mem_append, List.forall_mem_singleton] at hsub
  obtain ⟨p, hplace⟩ := exists_placePlan (hp.measured j hsub.2).position
    (hp.measured j hsub.2).rotation
  have hplan : planOf r.tree r.inputs ((pre ++ j :: post).map (·.name)) = .error j.typeFault :=
    planOf_eq_error (fun i hi => hp.rooted.joint_of_mem (hsub.1 i hi))
      (fun i hi => (hp.measured i (hsub.1 i hi)).isFramed (ht i hi) (hv i hi))
      (hp.rooted.joint_of_mem hsub.2) (Joint.plan_of_not_isModeled hplace hj)
  have hfails : r.frames.getOrBuild r.tree r.inputs key ((pre ++ j :: post).map (·.name))
      r.nextId = .error j.typeFault := by
    rw [FrameTable.getOrBuild_of_not_contains hkey, chainFrame_eq, hplan]
    rfl
  rw [equip, build_eq_error hfails]
  rfl

/-- **A chain with a joint that moves and for which something is not set is refused.** -/
theorem equip_of_unsettled (hp : Proper tree weights thresholds)
    (hr : InMaking tree root weights thresholds r) (hkey : r.frames.contains key = false)
    {pre post : List (Joint α)} {j : Joint α} (hjs : pre ++ j :: post ⊆ tree.joints)
    (ht : ∀ i ∈ pre ++ j :: post, i.type.IsModeled)
    (hv : ∀ i ∈ pre ++ j :: post, i.isMoveable = true → r.inputs.contains i.name = true)
    (hs : ∀ i ∈ pre, i.isMoveable = true → i.IsSettled weights thresholds)
    (hj : j.isMoveable = true) {fault : Fault α} (hf : j.SettingFault weights thresholds fault) :
    ∃ log, r.equip key (((pre ++ j :: post).filter Joint.isMoveable).map (·.name))
      ((pre ++ j :: post).map (·.name)) = .error ⟨fault, log⟩ := by
  obtain ⟨rfl, rfl, habove, rfl, rfl, hsettled⟩ := hr
  obtain ⟨f, n, hequip⟩ := equip_of_framed hp.rooted hkey hjs
    (fun i hi => (hp.measured i (hjs hi)).isFramed (ht i hi) (hv i hi))
    (((pre ++ j :: post).filter Joint.isMoveable).map (·.name))
  have hmaking : InMaking r.tree r.root r.weights r.thresholds
      { r with nextId := n, frames := ⟨r.frames.entries ++ [(key, f)]⟩,
               chains := r.chains ++ [key] } :=
    ⟨rfl, rfl, habove, rfl, rfl, hsettled⟩
  -- The joints that move, down to the one that is not settled.
  have hmoving : ∀ i ∈ pre.filter Joint.isMoveable ++ [j],
      i ∈ pre ++ j :: post ∧ i.isMoveable = true := by
    intro i hi
    rcases List.mem_append.1 hi with hi | hi
    · obtain ⟨hi, hmove⟩ := List.mem_filter.1 hi
      exact ⟨List.mem_append_left _ hi, hmove⟩
    · rw [List.mem_singleton.1 hi]
      exact ⟨List.mem_append_right _ List.mem_cons_self, hj⟩
  obtain ⟨log, herr⟩ := constrainAll_of_fault hp hmaking
    (fun i hi => hjs (hmoving i hi).1) (fun i hi => hv i (hmoving i hi).1 (hmoving i hi).2)
    (fun i hi => hs i (List.mem_filter.1 hi).1 (List.mem_filter.1 hi).2) hf
  refine ⟨log, ?_⟩
  rw [hequip, List.filter_append, List.filter_cons_of_pos hj, herr]
  rfl

end Equip

/-- **A robot in the making whose chains are all in order.** -/
structure InOrder (tree : Tree α) (root : String) (weights thresholds : Settings α)
    (r : Robot α) : Prop extends InMaking tree root weights thresholds r where
  sound : ∀ key, r.frames.contains key = true → ChainSound tree weights thresholds key

/-- **A chain that can be had is added**, or was before. -/
theorem addChain_of_sound (hp : Proper tree weights thresholds)
    (hr : InOrder tree root weights thresholds r) {key : ChainKey}
    (hs : ChainSound tree weights thresholds key) :
    ∃ r', r.addChain key = .ok r' ∧ InOrder tree root weights thresholds r' := by
  rcases hkey : r.frames.contains key with _ | _
  · obtain ⟨js, hjs, ht, hset⟩ := hs
    obtain ⟨hmaking, hframes, hvars⟩ := hr.assigned_moving js
    obtain ⟨r', hok, hr', hcontains⟩ :=
      equip_of_sound hp hmaking (hframes ▸ hkey) hjs.subset ht hvars hset
    refine ⟨r', (addChain_of_leads hp.rooted hr.madeFrom hkey hjs).trans hok, hr',
      fun other hother => ?_⟩
    rcases hcontains other hother with hbefore | rfl
    · exact hr.sound other (hframes ▸ hbefore)
    · exact ⟨js, hjs, ht, hset⟩
  · refine ⟨r.write (.repeated key), by rw [addChain, if_pos hkey]; rfl, ?_⟩
    exact ⟨⟨hr.tree_eq, hr.root_eq, hr.above_eq, hr.weights_eq, hr.thresholds_eq, hr.settled⟩,
      hr.sound⟩

/-- **A chain that cannot be had is refused with its cause**, and was not had before. -/
theorem addChain_of_fault (hp : Proper tree weights thresholds)
    (hr : InOrder tree root weights thresholds r) {key : ChainKey} {fault : Fault α}
    (hf : ChainFault tree weights thresholds key fault) :
    ∃ log, r.addChain key = .error ⟨fault, log⟩ := by
  -- The chain is not passed over: what the robot has is sound, and the chain is not.
  have hkey : r.frames.contains key = false := by
    rw [Bool.eq_false_iff]
    intro hbefore
    exact hf.not_sound hp.rooted (hr.sound key hbefore)
  cases hf with
  | unknownTip hne htip =>
    exact ⟨r.log, addChain_of_path_error hr.madeFrom hkey
      (Tree.path_of_not_mem tree r.above hne htip)⟩
  | astray htip hreach =>
    exact ⟨r.log, addChain_of_path_error hr.madeFrom hkey
      (hp.rooted.path_of_not_reaches hr.above_eq htip hreach)⟩
  | @noMotion _ tip pre post j hjs ht hj =>
    obtain ⟨hmaking, hframes, hvars⟩ := hr.assigned_moving (pre ++ j :: post)
    have herr := equip_of_noMotion hp hmaking (hframes ▸ hkey) hjs.subset ht hj
      (fun i hi => hvars i (List.mem_append_left _ hi))
      (((pre ++ j :: post).filter Joint.isMoveable).map (·.name))
    exact ⟨_, (addChain_of_leads hp.rooted hr.madeFrom hkey hjs).trans herr⟩
  | @unsettled _ tip pre post j _ hjs ht hs hj hf =>
    obtain ⟨hmaking, hframes, hvars⟩ := hr.assigned_moving (pre ++ j :: post)
    obtain ⟨log, herr⟩ :=
      equip_of_unsettled hp hmaking (hframes ▸ hkey) hjs.subset ht hvars hs hj hf
    exact ⟨log, (addChain_of_leads hp.rooted hr.madeFrom hkey hjs).trans herr⟩

/-! ### All chains that are asked for -/

/-- **A robot without chains is in order.** -/
theorem inOrder_bare {above : ParentLinks} (habove : tree.parentLinks = .ok above) :
    InOrder tree root weights thresholds (bare tree root above weights thresholds) where
  tree_eq := rfl
  root_eq := rfl
  above_eq := habove
  weights_eq := rfl
  thresholds_eq := rfl
  settled _ _ h := absurd h (by simp [bare, isConstrained])
  sound _ h := absurd h (by simp [bare, FrameTable.contains, FrameTable.empty])

/-- Each of the requests names a chain. -/
def Names (root : String) (requests : List ChainRequest) (keys : List ChainKey) : Prop :=
  List.Forall₂ (fun q key => (q.key root : Except (Fault α) ChainKey) = .ok key) requests keys

omit [Scalar α] in
/-- Requests that are not malformed name chains. -/
theorem exists_names (root : String) {requests : List ChainRequest}
    (hq : ∀ v, .malformed v ∉ requests) : ∃ keys, Names (α := α) root requests keys := by
  induction requests with
  | nil => exact ⟨[], .nil⟩
  | cons q requests ih =>
    obtain ⟨keys, hkeys⟩ := ih fun v hv => hq v (List.mem_cons_of_mem _ hv)
    cases q with
    | tip link => exact ⟨(root, link) :: keys, .cons rfl hkeys⟩
    | ends first second => exact ⟨(first, second) :: keys, .cons rfl hkeys⟩
    | malformed v => exact absurd List.mem_cons_self (hq v)

/-- **Chains are added up to the first that cannot be had**, whose fault is reported. By
induction on the requests: each finds the robot in order, and leaves it so. -/
theorem addChains_outcome (hp : Proper tree weights thresholds)
    (hr : InOrder tree root weights thresholds r) {requests : List ChainRequest}
    {keys : List ChainKey} (hkeys : Names (α := α) root requests keys) :
    (∃ r', r.addChains requests = .ok r' ∧ InOrder tree root weights thresholds r' ∧
      ∀ key ∈ keys, ChainSound tree weights thresholds key) ∨
    ∃ failure before key after, r.addChains requests = .error failure ∧
      keys = before ++ key :: after ∧
      (∀ other ∈ before, ChainSound tree weights thresholds other) ∧
      ChainFault tree weights thresholds key failure.fault := by
  induction hkeys generalizing r with
  | nil => exact Or.inl ⟨r, rfl, hr, fun _ hkey => absurd hkey List.not_mem_nil⟩
  | @cons q key requests keys hq hkeys ih =>
    have hstep : r.addChains (q :: requests) = r.addChain key >>= (·.addChains requests) := by
      rw [addChains, hr.root_eq, hq]
      rfl
    rcases chainSound_or_fault tree weights thresholds key with hs | ⟨fault, hf⟩
    · obtain ⟨r', hok, hr'⟩ := addChain_of_sound hp hr hs
      rw [hok] at hstep
      rcases ih hr' with ⟨r'', hok', hr'', hall⟩ |
        ⟨failure, before, key', after, herr, rfl, hbefore, hf⟩
      · exact Or.inl ⟨r'', hstep.trans hok', hr'', List.forall_mem_cons.2 ⟨hs, hall⟩⟩
      · exact Or.inr ⟨failure, key :: before, key', after, hstep.trans herr, rfl,
          List.forall_mem_cons.2 ⟨hs, hbefore⟩, hf⟩
    · obtain ⟨log, herr⟩ := addChain_of_fault hp hr hf
      rw [herr] at hstep
      exact Or.inr ⟨⟨fault, log⟩, [], key, keys, hstep, rfl,
        fun _ hother => absurd hother List.not_mem_nil, hf⟩

/-- **A robot can be made exactly if all chains that are asked for can be had.** If not,
the first that cannot is reported, with its cause: no path, else the uppermost joint
without a motion, else the uppermost that moves and for which something is not set. It is
never reported that something was not registered. -/
theorem compile_outcome {name : String} {joints : List (Joint α)} {extra : List String}
    {tree : Tree α} (h : Tree.ofJoints name joints extra = .ok tree)
    (hm : ∀ j ∈ joints, j.IsMeasured) (root : String) {requests : List ChainRequest}
    (hq : ∀ v, .malformed v ∉ requests) {weights thresholds : Settings α}
    (hwts : ∀ e ∈ weights, e.2.HasScalar) (hthr : ∀ e ∈ thresholds, e.2.HasScalar) :
    ∃ keys, Names (α := α) root requests keys ∧
      ((∃ r, compile tree root (.ok requests) weights thresholds = .ok r) ↔
        ∀ key ∈ keys, ChainSound tree weights thresholds key) ∧
      ∀ failure, compile tree root (.ok requests) weights thresholds = .error failure →
        failure.fault.kind ∈ [.integrity, .jointType, .missing, .invalid, .safety] ∧
        ∃ before key after, keys = before ++ key :: after ∧
          (∀ other ∈ before, ChainSound tree weights thresholds other) ∧
          ChainFault tree weights thresholds key failure.fault := by
  have hrooted := Tree.isRooted_of_ofJoints h
  obtain ⟨above, habove, -⟩ := hrooted.exists_parentLinks
  obtain ⟨keys, hkeys⟩ := exists_names (α := α) root hq
  have hcompile : compile tree root (.ok requests) weights thresholds =
      (bare tree root above weights thresholds).addChains requests >>= fun r =>
        .ok (r.write (.finished tree.name r.chains.length r.inputs.size)) := by
    rw [compile, habove]
    rfl
  have hp : Proper tree weights thresholds := by
    obtain ⟨_, _, _, rfl⟩ := Tree.ofJoints_eq_ok_iff.1 h
    exact ⟨hrooted, hm, hwts, hthr⟩
  refine ⟨keys, hkeys, ?_⟩
  rcases addChains_outcome hp (inOrder_bare habove) hkeys with
    ⟨r, hok, -, hall⟩ | ⟨failure, before, key, after, herr, rfl, hbefore, hf⟩
  · rw [hcompile, hok]
    exact ⟨⟨fun _ => hall, fun _ => ⟨_, rfl⟩⟩, fun _ herr => by cases herr⟩
  · rw [hcompile, herr]
    refine ⟨⟨(fun ⟨_, hok⟩ => by cases hok), fun hall => ?_⟩, fun _ heq => ?_⟩
    · exact absurd (hall key (by simp)) (hf.not_sound hrooted)
    · obtain rfl := Except.error.inj heq
      exact ⟨hf.kind_mem, before, key, after, rfl, hbefore, hf⟩

/-- A cart slides on a rail. -/
def cartSlide : Joint Float :=
  ⟨"slide", .prismatic, "rail", "cart", .rest, Joint.defaultAxis,
    some ⟨.real 0, .real 1, .real 1, .real 1⟩⟩

/-- A cart that slides on a rail, and a mast on it. -/
def cartJoints : List (Joint Float) :=
  [cartSlide, ⟨"mount", .fixed, "cart", "mast", .rest, Joint.defaultAxis, none⟩]

/-- **The mast on the cart can be had** with a weight for the slide, and not without. -/
theorem compile_outcome_cart :
    ∃ tree, Tree.ofJoints "cart" cartJoints [] = .ok tree ∧
      (∃ r, compile tree "rail" (.ok [.tip "mast"]) [("slide", .real 1)] [] = .ok r) ∧
      ¬∃ r, compile tree "rail" (.ok [.tip "mast"]) [] [] = .ok r := by
  have h : Tree.ofJoints "cart" cartJoints [] = .ok (treeOf "cart" cartJoints [] "rail") := by cbv
  have hm : ∀ j ∈ cartJoints, j.IsMeasured := by
    refine List.forall_mem_cons.2 ⟨?_, List.forall_mem_singleton.2 ?_⟩
    · refine ⟨isTriple_real 0 0 0, rfl, isTriple_real 1 0 0, fun limits hl => ?_⟩
      rw [← Option.some.inj hl]
      exact Number.hasScalar_real 1
    · exact ⟨isTriple_real 0 0 0, rfl, isTriple_real 1 0 0, fun limits hl => by cases hl⟩
  have hq : ∀ v, ChainRequest.malformed v ∉ [ChainRequest.tip "mast"] := by simp
  have hwts : ∀ e ∈ [("slide", Number.real (1 : Float))], e.2.HasScalar :=
    List.forall_mem_singleton.2 (Number.hasScalar_real 1)
  have hnil : ∀ e ∈ ([] : Settings Float), e.2.HasScalar := by simp
  have hjs : Leads cartJoints "rail" cartJoints "mast" := by
    refine ⟨?_, rfl, ?_, rfl, rfl⟩ <;> simp [cartJoints]
  have ht : ∀ j ∈ cartJoints, j.type.IsModeled := by decide
  have hkey : ∀ {keys}, Names (α := Float) "rail" [.tip "mast"] keys →
      keys = [("rail", "mast")] := by
    intro keys hkeys
    cases hkeys with
    | cons hkey hrest =>
      cases hkey
      cases hrest
      rfl
  refine ⟨_, h, ?_, ?_⟩
  · obtain ⟨keys, hkeys, hiff, -⟩ := compile_outcome h hm "rail" hq hwts hnil
    obtain rfl := hkey hkeys
    refine hiff.2 (List.forall_mem_singleton.2 ⟨cartJoints, hjs, ht, ?_⟩)
    refine List.forall_mem_cons.2 ⟨fun _ => ?_, List.forall_mem_singleton.2 fun hfixed => ?_⟩
    · exact ⟨.real 1, _, by decide, by decide, rfl, by decide⟩
    · exact absurd hfixed (by decide)
  · obtain ⟨keys, hkeys, hiff, -⟩ := compile_outcome h hm "rail" hq hnil hnil
    obtain rfl := hkey hkeys
    rw [hiff, List.forall_mem_singleton]
    have hfault : cartSlide.SettingFault [] [] (.noWeight "slide") := .noWeight rfl
    have hpre : ∀ i ∈ ([] : List (Joint Float)), i.isMoveable = true → i.IsSettled [] [] := by simp
    exact (ChainFault.unsettled hjs ht hpre rfl hfault).not_sound (Tree.isRooted_of_ofJoints h)

end Robot

end Linkage
