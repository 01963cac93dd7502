import Linkage.Proofs.Compiling

/-!
# The steps by which a robot is made

What is proved of a robot that has been made is proved by going back over the steps that made
it. A step that succeeded has gone through everything that could have failed, and what it did is
then one of two things: nothing, where the robot had already what was asked for, or one addition
to the end of what it keeps. Each of the statements here says all that a step can have done, so
that no proof after it has to look into the step again.

* `Linkage.Robot.constrain_eq_ok` – the constraints of one joint;
* `Linkage.Robot.addChain_eq_ok` – one chain more.
-/

namespace Linkage

variable {α : Type}

/-- A chain that was not in the table has been built into it, as the last. -/
theorem FrameTable.getOrBuild_eq_ok [Scalar α] {t t' : FrameTable α} {tree : Tree α}
    {vs : Variables} {key : ChainKey} {names : List String} {n m : Nat} {f : FrameExpr α}
    (hkey : t.contains key = false) (h : t.getOrBuild tree vs key names n = .ok ((f, t'), m)) :
    chainFrame tree vs names n = .ok (f, m) ∧ t' = ⟨t.entries ++ [(key, f)]⟩ := by
  rw [getOrBuild_of_not_contains hkey] at h
  obtain ⟨⟨g, k⟩, hbuilt, h⟩ := exists_of_map_eq_ok h
  obtain ⟨⟨rfl, rfl⟩, rfl⟩ := (Prod.mk.inj h).imp_left Prod.mk.inj
  exact ⟨hbuilt, rfl⟩

namespace Robot

section

variable {β : Type} {r r' : Robot α}

theorem of_attempt_eq_ok {x : Except (Fault α) β} {a : β} (h : r.attempt x = .ok a) :
    x = .ok a := by
  cases x with
  | error fault => cases h
  | ok b => exact congrArg Except.ok (Except.ok.inj h)

/-- What was built for a robot is what its builder gives, and the robot changed no more than
its next number. -/
theorem of_build_eq_ok {b : Builder α β} {x : β} (h : r.build b = .ok (x, r')) :
    ∃ n, b r.nextId = .ok (x, n) ∧ r' = { r with nextId := n } := by
  rw [build] at h
  obtain ⟨⟨y, n⟩, hx, hlast⟩ := exists_of_map_eq_ok h
  obtain ⟨rfl, rfl⟩ := Prod.mk.inj hlast
  exact ⟨n, of_attempt_eq_ok hx, rfl⟩

/-- **Handing out inputs** adds to them, at the end. -/
theorem inputs_prefix_assignAll (r : Robot α) (names : List String) :
    r.inputs.list <+: (r.assignAll names).inputs.list := by
  induction names generalizing r with
  | nil => exact List.prefix_rfl
  | cons name names ih =>
    rw [assignAll]
    split
    · exact ih r
    · refine List.IsPrefix.trans ?_ (ih _)
      change r.inputs.list <+: (r.inputs.assign r.nextId name).2.1.list
      rw [Variables.assign]
      split
      · exact List.prefix_rfl
      · exact List.prefix_append _ _

/-- Every joint keeps the one that it had. -/
theorem find?_assignAll {name : String} {v : Variable} (h : r.inputs.find? name = some v)
    (names : List String) : (r.assignAll names).inputs.find? name = some v := by
  obtain ⟨new, hnew⟩ := inputs_prefix_assignAll r names
  rw [Variables.find?] at h ⊢
  rw [← hnew, List.find?_append, h, Option.some_or]

end

variable [Scalar α] {r r' : Robot α}

/-- **A joint that has been constrained** had been before, or has been found in the tree and
among those with an input, and its two constraints have been built and put last. -/
theorem constrain_eq_ok {name : String} (h : r.constrain name = .ok r') :
    (r.isConstrained name = true ∧ r' = r) ∨
    (r.isConstrained name = false ∧ ∃ j v c b n m,
      r.tree.joint name = .ok j ∧ r.joint name = .ok v ∧
      j.controllable v r.weights r.thresholds r.nextId = .ok (c, n) ∧ j.hard v n = .ok (b, m) ∧
      r' = { r with
        controllable := r.controllable ++ [c], hard := r.hard ++ b.toList, nextId := m }) := by
  rw [constrain] at h
  rcases hdone : r.isConstrained name with _ | _
  · rw [if_neg (by simp [hdone])] at h
    obtain ⟨j, hj, h⟩ := exists_of_bind_eq_ok h
    obtain ⟨v, hv, h⟩ := exists_of_bind_eq_ok h
    obtain ⟨⟨c, r₁⟩, hbuild, h⟩ := exists_of_bind_eq_ok h
    obtain ⟨⟨b, r₂⟩, hbuild', h⟩ := exists_of_bind_eq_ok h
    obtain rfl := Except.ok.inj h
    obtain ⟨n, hc, rfl⟩ := of_build_eq_ok hbuild
    obtain ⟨m, hb, rfl⟩ := of_build_eq_ok hbuild'
    exact Or.inr ⟨rfl, j, v, c, b, n, m, of_attempt_eq_ok hj, of_attempt_eq_ok hv, hc, hb, rfl⟩
  · rw [if_pos hdone] at h
    exact Or.inl ⟨rfl, (Except.ok.inj h).symm⟩

/-- **What constraining a joint does not destroy** holds after all joints of a list are
constrained, if it held before. -/
theorem constrainAll_induction {P : Robot α → Prop}
    (hstep : ∀ {r r' : Robot α} {name : String}, P r → r.constrain name = .ok r' → P r')
    {names : List String} (hr : P r) (h : r.constrainAll names = .ok r') : P r' := by
  induction names generalizing r with
  | nil =>
    obtain rfl := Except.ok.inj h
    exact hr
  | cons name names ih =>
    rw [constrainAll] at h
    obtain ⟨r₁, hfirst, h⟩ := exists_of_bind_eq_ok h
    exact ih (hstep hr hfirst) h

/-- Constraining joints changes the constraints and the next number. -/
theorem constrainAll_eq_ok {names : List String} (h : r.constrainAll names = .ok r') :
    ∃ cs hs n, r' = { r with controllable := cs, hard := hs, nextId := n } := by
  refine constrainAll_induction
    (P := fun r' => ∃ cs hs n, r' = { r with controllable := cs, hard := hs, nextId := n })
    ?_ ⟨_, _, _, rfl⟩ h
  rintro _ _ name ⟨cs, hs, n, rfl⟩ hstep
  rcases constrain_eq_ok hstep with ⟨-, rfl⟩ | ⟨-, _, _, _, _, _, _, -, -, -, -, rfl⟩
  · exact ⟨_, _, _, rfl⟩
  · exact ⟨_, _, _, rfl⟩

/-- **A chain that has been added** was there before, or has been found in the tree, its joints
that move have been given inputs, its frame has been built and put last, and its joints that
move have been constrained. -/
theorem addChain_eq_ok {key : ChainKey} (h : r.addChain key = .ok r') :
    (r.frames.contains key = true ∧ r' = r.write (.repeated key)) ∨
    (r.frames.contains key = false ∧ ∃ moving all vs n log f m r₂,
      r.pathNames key.1 key.2 false = .ok moving ∧ r.pathNames key.1 key.2 true = .ok all ∧
      r.assignAll moving = { r with inputs := vs, nextId := n, log := log } ∧
      chainFrame r.tree vs all n = .ok (f, m) ∧
      constrainAll { r with
        inputs := vs, nextId := m, log := log, frames := ⟨r.frames.entries ++ [(key, f)]⟩,
        chains := r.chains ++ [key] } moving = .ok r₂ ∧
      r' = r₂.write (.compiled key all.length)) := by
  rw [addChain] at h
  rcases hkey : r.frames.contains key with _ | _
  · rw [if_neg (by simp [hkey])] at h
    obtain ⟨moving, hmoving, h⟩ := exists_of_bind_eq_ok h
    obtain ⟨all, hall, h⟩ := exists_of_bind_eq_ok h
    obtain ⟨⟨⟨f, frames⟩, r₁⟩, hbuild, h⟩ := exists_of_bind_eq_ok h
    obtain ⟨r₂, hconstrain, hlast⟩ := exists_of_bind_eq_ok h
    obtain ⟨vs, n, log, hassign, -, -⟩ := r.assignAll_eq moving
    rw [hassign] at hbuild
    obtain ⟨m, hbuilt, rfl⟩ := of_build_eq_ok hbuild
    obtain ⟨hframe, rfl⟩ := FrameTable.getOrBuild_eq_ok hkey hbuilt
    exact Or.inr ⟨rfl, moving, all, vs, n, log, f, m, r₂, of_attempt_eq_ok hmoving,
      of_attempt_eq_ok hall, hassign, hframe, hconstrain, (Except.ok.inj hlast).symm⟩
  · rw [if_pos hkey] at h
    exact Or.inl ⟨rfl, (Except.ok.inj h).symm⟩

/-- **What no chain destroys** holds after all chains that are asked for, if it held before. -/
theorem addChains_induction {P : Robot α → Prop}
    (hstep : ∀ {r r' : Robot α} {key : ChainKey}, P r → r.addChain key = .ok r' → P r')
    {requests : List ChainRequest} (hr : P r) (h : r.addChains requests = .ok r') : P r' := by
  induction requests generalizing r with
  | nil =>
    obtain rfl := Except.ok.inj h
    exact hr
  | cons q requests ih =>
    rw [addChains] at h
    obtain ⟨key, -, h⟩ := exists_of_bind_eq_ok h
    obtain ⟨r₁, hadd, h⟩ := exists_of_bind_eq_ok h
    exact ih (hstep hr hadd) h

/-- **With the chains that are asked for** a robot is made, but for the last line it writes. -/
theorem compile_of_addChains {tree : Tree α} {root : String} {requests : List ChainRequest}
    {weights thresholds : Settings α} {above : ParentLinks} (habove : tree.parentLinks = .ok above)
    (hadd : (bare tree root above weights thresholds).addChains requests = .ok r) :
    compile tree root (.ok requests) weights thresholds =
      .ok (r.write (.finished tree.name r.chains.length r.inputs.size)) := by
  rw [compile, habove]
  simp only
  rw [hadd]
  rfl

/-- **A robot that has been made** is one without chains that was given those asked for, but for
the last line it wrote. -/
theorem compile_eq_ok {tree : Tree α} {root : String} {requests : List ChainRequest}
    {weights thresholds : Settings α}
    (h : compile tree root (.ok requests) weights thresholds = .ok r) :
    ∃ above r₀ line, tree.parentLinks = .ok above ∧
      (bare tree root above weights thresholds).addChains requests = .ok r₀ ∧
      r = r₀.write line := by
  rw [compile] at h
  rcases habove : tree.parentLinks with fault | above
  · rw [habove] at h
    cases h
  · rw [habove] at h
    obtain ⟨r₀, hadd, h⟩ := exists_of_bind_eq_ok h
    exact ⟨above, r₀, _, rfl, hadd, (Except.ok.inj h).symm⟩

end Robot

end Linkage
