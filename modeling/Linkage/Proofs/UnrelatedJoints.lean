import Linkage.Proofs.Bounds
import Linkage.Proofs.Placement
import Linkage.Proofs.Readiness

/-!
# Joints that make no difference

Two robots are made side by side, from the same root and for the same chains. The tree of the
second may have more joints, and it may have been given other settings. What is told here is that
this makes no difference, as long as both can be made: every node that the first robot builds, the
second builds at the same moment, with the same number.

The making of a robot looks at its tree in two ways only, for the joints on the way to a link and
for a joint by its name, and what is found in a tree is found in every tree that has its joints
(`Linkage.Tree.IsRooted.pathNames_mono`). It looks at its settings in one place only. They decide
what the nodes of a controllable constraint say, and not how many they are
(`Linkage.controllable_eq_ok`), so nothing built later can tell. And for a joint they decide it by
what is set for its name and for all joints, and by nothing else (`Linkage.AgreeOn`).

`Linkage.Robot.Resembles` says what stays alike, and every step preserves it. Two things follow.

* `Linkage.Robot.compile_isolated` – the settings of one joint do not reach into another;
* `Linkage.Robot.compile_extended` – joints that are on no chain make no difference at all.
-/

namespace Linkage

variable {α : Type}

/-! ### Trees with more joints -/

namespace Tree

variable {tree tree' : Tree α}

/-- **The way to a link is the same among more joints**, and so are the joints on it. -/
theorem IsRooted.pathNames_mono (h : tree.IsRooted) (h' : tree'.IsRooted)
    (hsub : tree.joints ⊆ tree'.joints) {above above' : ParentLinks}
    (habove : tree.parentLinks = .ok above) (habove' : tree'.parentLinks = .ok above')
    {root tip : String} {withFixed : Bool} {names : List String}
    (hnames : tree.pathNames above root tip withFixed = .ok names) :
    tree'.pathNames above' root tip withFixed = .ok names ∧
      ∀ name ∈ names, tree'.joint name = tree.joint name := by
  obtain ⟨js, hjs, rfl⟩ := h.leads_of_pathNames habove hnames
  refine ⟨h'.pathNames_of_leads habove' (hjs.mono hsub) withFixed, fun name hname => ?_⟩
  obtain ⟨j, hj, rfl⟩ := List.mem_map.1 hname
  have hmem := hjs.subset (List.mem_of_mem_filter hj)
  rw [h.joint_of_mem hmem, h'.joint_of_mem (hsub hmem)]

end Tree

section Building

variable [Scalar α] {tree tree' : Tree α} {names : List String}

/-- **A frame is built from its joints**, whatever tree they are found in. -/
theorem chainFrame_congr (hjoint : ∀ name ∈ names, tree'.joint name = tree.joint name)
    (vs : Variables) : chainFrame tree' vs names = chainFrame tree vs names := by
  have hplans : planOf tree' vs names = planOf tree vs names :=
    mapM_congr fun name hname => by rw [namedPlan, namedPlan, hjoint name hname]
  funext n
  rw [chainFrame_eq, chainFrame_eq, hplans]

/-- What can be worked out can be among more joints. -/
theorem ChainReady.mono {weights thresholds : Settings α}
    {key : ChainKey} (hready : ChainReady tree weights thresholds key)
    (hsub : tree.joints ⊆ tree'.joints) : ChainReady tree' weights thresholds key := by
  obtain ⟨js, hjs, hall⟩ := hready
  exact ⟨js, hjs.mono hsub, hall⟩

end Building

/-! ### Settings that agree -/

section Agreement

variable [Scalar α] {settings settings' weights weights' thresholds thresholds' : Settings α}

/-- **The same setting under a name**: the same scalar, however it is written, or none. -/
def Settings.SameAt (settings settings' : Settings α) (key : String) : Prop :=
  (settings.lookup key).map Number.toScalar = (settings'.lookup key).map Number.toScalar

/-- **Settings that agree on a joint**, given by name: on what is set for it and on what is set for
all joints. -/
structure AgreeOn (weights weights' thresholds thresholds' : Settings α) (joint : String) :
    Prop where
  weight : weights.SameAt weights' joint
  defaultWeight : weights.SameAt weights' defaultWeightKey
  velocity : thresholds.SameAt thresholds' joint
  defaultVelocity : thresholds.SameAt thresholds' defaultVelocityKey

theorem AgreeOn.refl (weights thresholds : Settings α) (joint : String) :
    AgreeOn weights weights thresholds thresholds joint := ⟨rfl, rfl, rfl, rfl⟩

/-- Where both the own setting and the one for all joints are the same, the same is found. -/
theorem Settings.SameAt.find? {joint fallback : String} (h : settings.SameAt settings' joint)
    (hfallback : settings.SameAt settings' fallback) :
    (settings.find? joint fallback).map Number.toScalar =
      (settings'.find? joint fallback).map Number.toScalar := by
  rw [SameAt] at h
  rw [Settings.find?, Settings.find?]
  rcases hx : settings.lookup joint with _ | x <;> rcases hy : settings'.lookup joint with _ | y <;>
    rw [hx, hy] at h
  · exact hfallback
  · cases h
  · cases h
  · exact h

/-- **Joints with settings that agree have the same weight.** -/
theorem AgreeOn.weight_eq {joint : String}
    (h : AgreeOn weights weights' thresholds thresholds' joint) {w w' : α}
    (hw : resolveWeight joint weights = .ok w) (hw' : resolveWeight joint weights' = .ok w') :
    w' = w := by
  have hfound : ∀ {settings : Settings α} {a}, resolveWeight joint settings = .ok a →
      (settings.find? joint defaultWeightKey).map Number.toScalar = some (.ok a) := by
    intro settings a ha
    rw [resolveWeight] at ha
    split at ha
    · cases ha
    · rename_i x hx
      split at ha
      · rw [hx, Option.map_some, ha]
      · cases ha
  have hsame := h.weight.find? h.defaultWeight
  rw [hfound hw, hfound hw'] at hsame
  exact (Except.ok.inj (Option.some.inj hsame)).symm

/-- **And the same velocity.** -/
theorem AgreeOn.velocity_eq {j : Joint α}
    (h : AgreeOn weights weights' thresholds thresholds' j.name) {x x' : α}
    (hx : resolveVelocity j thresholds = .ok x) (hx' : resolveVelocity j thresholds' = .ok x') :
    x' = x := by
  obtain ⟨limits, hl⟩ := exists_limits_of_resolveVelocity hx
  have hchosen := (le_of_resolveVelocity hl hx).2
  have hchosen' := (le_of_resolveVelocity hl hx').2
  rw [Joint.chosenVelocity, ← Option.getD_map Number.toScalar] at hchosen hchosen'
  rw [h.velocity.find? h.defaultVelocity] at hchosen
  exact Except.ok.inj (hchosen'.symm.trans hchosen)

end Agreement

/-! ### Side by side -/

namespace Robot

/-- **Constraints that are alike**: they bound the same joint on the same entry, and are the same
if the settings agree on the joint. -/
structure BoundsAlike [Scalar α] (weights weights' thresholds thresholds' : Settings α)
    (c c' : Controllable α) : Prop where
  joint : c'.joint = c.joint
  input : c'.input = c.input
  eq_of_agree : AgreeOn weights weights' thresholds thresholds' c.joint → c' = c

/-- **A robot that is like another one**, as far as both have been made. The way to a link is found
in its tree where it is found in the other's, and what has been built is the same, but for what the
controllable constraints of joints say on which the settings do not agree. -/
structure Resembles [Scalar α] (r r' : Robot α) : Prop where
  root : r'.root = r.root
  path : ∀ a b withFixed names, r.pathNames a b withFixed = .ok names →
    r'.pathNames a b withFixed = .ok names ∧
      ∀ name ∈ names, r'.tree.joint name = r.tree.joint name
  inputs : r'.inputs = r.inputs
  frames : r'.frames = r.frames
  chains : r'.chains = r.chains
  controllable : List.Forall₂ (BoundsAlike r.weights r'.weights r.thresholds r'.thresholds)
    r.controllable r'.controllable
  hard : r'.hard = r.hard
  log : r'.log = r.log
  nextId : r'.nextId = r.nextId

variable {r r' s s' : Robot α}

/-- **Inputs are handed out alike.** -/
theorem assignAll_congr (hinputs : r'.inputs = r.inputs) (hlog : r'.log = r.log)
    (hnext : r'.nextId = r.nextId) (names : List String) :
    (r'.assignAll names).inputs = (r.assignAll names).inputs ∧
      (r'.assignAll names).log = (r.assignAll names).log ∧
      (r'.assignAll names).nextId = (r.assignAll names).nextId := by
  induction names generalizing r r' with
  | nil => exact ⟨hinputs, hlog, hnext⟩
  | cons name names ih =>
    rw [assignAll, assignAll, hinputs, hnext]
    split
    · exact ih hinputs hlog hnext
    · refine ih rfl ?_ rfl
      change r'.log ++ _ = r.log ++ _
      rw [hlog]

variable [Scalar α]

theorem Resembles.joint (h : Resembles r r') (name : String) : r'.joint name = r.joint name := by
  rw [Robot.joint, Robot.joint, h.inputs]

theorem Resembles.controllable_joint (h : Resembles r r') :
    r'.controllable.map (·.joint) = r.controllable.map (·.joint) :=
  map_eq_of_forall₂ h.controllable fun _ _ hc => hc.joint

/-- **With the same settings** the constraints are the same. -/
theorem Resembles.controllable_eq (h : Resembles r r') (hweights : r'.weights = r.weights)
    (hthresholds : r'.thresholds = r.thresholds) : r'.controllable = r.controllable := by
  have halike := h.controllable
  rw [hweights, hthresholds] at halike
  have hsame : r'.controllable.map id = r.controllable.map id :=
    map_eq_of_forall₂ halike fun c _ hc => hc.eq_of_agree (.refl r.weights r.thresholds c.joint)
  rwa [List.map_id, List.map_id] at hsame

theorem tree_of_constrain {name : String} (hok : r.constrain name = .ok s) : s.tree = r.tree := by
  rcases constrain_eq_ok hok with ⟨-, rfl⟩ | ⟨-, _, _, _, _, _, _, -, -, -, -, rfl⟩ <;> rfl

/-- **The constraints of one joint more are alike.** -/
theorem Resembles.constrain (h : Resembles r r') {name : String}
    (hname : r'.tree.joint name = r.tree.joint name) (hok : r.constrain name = .ok s)
    (hok' : r'.constrain name = .ok s') : Resembles s s' := by
  have hdone : r'.isConstrained name = r.isConstrained name := by
    rw [Bool.eq_iff_iff, isConstrained_iff, isConstrained_iff, h.controllable_joint]
  rcases constrain_eq_ok hok with ⟨hold, rfl⟩ | ⟨hnew, j, v, c, b, n, m, hj, hv, hc, hb, rfl⟩ <;>
    rcases constrain_eq_ok hok' with
      ⟨hold', rfl⟩ | ⟨hnew', j', v', c', b', n', m', hj', hv', hc', hb', rfl⟩
  · exact h
  · rw [hdone, hold] at hnew'
    cases hnew'
  · rw [hdone, hnew] at hold'
    cases hold'
  · -- Both find the same joint with the same variable, and take the same numbers.
    obtain rfl : j' = j := by
      rw [hname, hj] at hj'
      exact (Except.ok.inj hj').symm
    obtain rfl : v' = v := by
      rw [h.joint, hv] at hv'
      exact (Except.ok.inj hv').symm
    rw [h.nextId] at hc'
    obtain ⟨w, x, hw, hx, rfl, rfl⟩ := controllable_eq_ok hc
    obtain ⟨w', x', hw', hx', rfl, rfl⟩ := controllable_eq_ok hc'
    rw [hb] at hb'
    obtain ⟨rfl, rfl⟩ := Prod.mk.inj (Except.ok.inj hb')
    refine { h with
      controllable := forall₂_concat h.controllable ⟨rfl, rfl, fun hagree => ?_⟩
      hard := congrArg (· ++ b.toList) h.hard
      nextId := rfl }
    rw [hagree.weight_eq hw hw', hagree.velocity_eq hx hx']

/-- So are those of all joints of a list. -/
theorem Resembles.constrainAll (h : Resembles r r') {names : List String}
    (hnames : ∀ name ∈ names, r'.tree.joint name = r.tree.joint name)
    (hok : r.constrainAll names = .ok s) (hok' : r'.constrainAll names = .ok s') :
    Resembles s s' := by
  induction names generalizing r r' with
  | nil =>
    obtain rfl := Except.ok.inj hok
    obtain rfl := Except.ok.inj hok'
    exact h
  | cons name names ih =>
    rw [List.forall_mem_cons] at hnames
    rw [Robot.constrainAll] at hok hok'
    obtain ⟨r₁, hfirst, hok⟩ := exists_of_bind_eq_ok hok
    obtain ⟨r₁', hfirst', hok'⟩ := exists_of_bind_eq_ok hok'
    refine ih (h.constrain hnames.1 hfirst hfirst') ?_ hok hok'
    rw [tree_of_constrain hfirst, tree_of_constrain hfirst']
    exact hnames.2

/-- A line more makes no difference, if it is the same. -/
theorem Resembles.write (h : Resembles r r') (line : LogLine) :
    Resembles (r.write line) (r'.write line) :=
  { h with log := congrArg (· ++ [line]) h.log }

/-- **With one chain more** robots are alike still. -/
theorem Resembles.addChain (h : Resembles r r') {key : ChainKey} (hok : r.addChain key = .ok s)
    (hok' : r'.addChain key = .ok s') : Resembles s s' := by
  have hbuilt : r'.frames.contains key = r.frames.contains key := by rw [h.frames]
  rcases addChain_eq_ok hok with ⟨hold, rfl⟩ | ⟨hnew, moving, all, vs, n, log, f, m, r₁, hmoving,
    hall, hassign, hframe, hconstrain, rfl⟩ <;>
    rcases addChain_eq_ok hok' with ⟨hold', rfl⟩ | ⟨hnew', moving', all', vs', n', log', f', m',
      r₁', hmoving', hall', hassign', hframe', hconstrain', rfl⟩
  · exact h.write _
  · rw [hbuilt, hold] at hnew'
    cases hnew'
  · rw [hbuilt, hnew] at hold'
    cases hold'
  · -- Both find the same way, and hand out the same inputs on it.
    obtain ⟨hway, hjoints⟩ := h.path _ _ _ _ hall
    obtain ⟨hway', hjoints'⟩ := h.path _ _ _ _ hmoving
    obtain rfl := Except.ok.inj (hall'.symm.trans hway)
    obtain rfl := Except.ok.inj (hmoving'.symm.trans hway')
    obtain ⟨hvs, hlog, hnext⟩ := assignAll_congr h.inputs h.log h.nextId moving'
    rw [hassign, hassign'] at hvs hlog hnext
    obtain rfl : vs' = vs := hvs
    obtain rfl : log' = log := hlog
    obtain rfl : n' = n := hnext
    rw [chainFrame_congr hjoints, hframe] at hframe'
    obtain ⟨rfl, rfl⟩ := Prod.mk.inj (Except.ok.inj hframe')
    have hbuilding : Resembles
        { r with
          inputs := vs', nextId := m, log := log', frames := ⟨r.frames.entries ++ [(key, f)]⟩,
          chains := r.chains ++ [key] }
        { r' with
          inputs := vs', nextId := m, log := log', frames := ⟨r'.frames.entries ++ [(key, f)]⟩,
          chains := r'.chains ++ [key] } :=
      { h with
        inputs := rfl
        frames := congrArg (fun t => FrameTable.mk (t.entries ++ [(key, f)])) h.frames
        chains := congrArg (· ++ [key]) h.chains
        log := rfl
        nextId := rfl }
    exact (hbuilding.constrainAll hjoints' hconstrain hconstrain').write _

/-- **With all chains that are asked for** they are. -/
theorem Resembles.addChains (h : Resembles r r') {requests : List ChainRequest}
    (hok : r.addChains requests = .ok s) (hok' : r'.addChains requests = .ok s') :
    Resembles s s' := by
  induction requests generalizing r r' with
  | nil =>
    obtain rfl := Except.ok.inj hok
    obtain rfl := Except.ok.inj hok'
    exact h
  | cons q requests ih =>
    rw [Robot.addChains] at hok hok'
    obtain ⟨key, hkey, hrest⟩ := exists_of_bind_eq_ok hok
    obtain ⟨key', hkey', hrest'⟩ := exists_of_bind_eq_ok hok'
    have hsame := of_attempt_eq_ok hkey'
    rw [h.root, of_attempt_eq_ok hkey] at hsame
    obtain rfl := Except.ok.inj hsame
    obtain ⟨r₁, hfirst, hlast⟩ := exists_of_bind_eq_ok hrest
    obtain ⟨r₁', hfirst', hlast'⟩ := exists_of_bind_eq_ok hrest'
    exact ih (h.addChain hfirst hfirst') hlast hlast'

/-- **Robots that have been made** are alike but for the last lines they wrote. -/
theorem resembles_of_compile {tree tree' : Tree α} {root : String} {requests : List ChainRequest}
    {weights weights' thresholds thresholds' : Settings α} (htree : tree.IsRooted)
    (htree' : tree'.IsRooted) (hsub : tree.joints ⊆ tree'.joints)
    (h : compile tree root (.ok requests) weights thresholds = .ok r)
    (h' : compile tree' root (.ok requests) weights' thresholds' = .ok r') :
    ∃ s s' : Robot α, Resembles s s' ∧
      r = s.write (.finished tree.name s.chains.length s.inputs.size) ∧
      r' = s'.write (.finished tree'.name s'.chains.length s'.inputs.size) := by
  obtain ⟨above, s, -, habove, hadd, -⟩ := compile_eq_ok h
  obtain ⟨above', s', -, habove', hadd', -⟩ := compile_eq_ok h'
  rw [compile_of_addChains habove hadd] at h
  rw [compile_of_addChains habove' hadd'] at h'
  refine ⟨s, s', ?_, (Except.ok.inj h).symm, (Except.ok.inj h').symm⟩
  have hbare : Resembles (bare tree root above weights thresholds)
      (bare tree' root above' weights' thresholds') := {
    root := rfl
    path := fun a b withFixed names hnames =>
      htree.pathNames_mono htree' hsub habove habove' hnames
    inputs := rfl
    frames := rfl
    chains := rfl
    controllable := .nil
    hard := rfl
    log := rfl
    nextId := rfl }
  exact hbare.addChains hadd hadd'

/-! ### What the settings reach -/

section Given

variable {name name' root : String} {joints joints' : List (Joint α)} {extra extra' : List String}
  {tree tree' : Tree α} {requests : List ChainRequest}
  {weights weights' thresholds thresholds' : Settings α}

/-- **Settings do not reach further than they should.** Two robots that are made from one tree, for
the same chains and with any settings, have the same chains, joints, inputs, frames and hard
constraints, node by node, and write the same. Their controllable constraints are on the same
joints and the same entries, and those of a joint are the same, weight and bounds, if the settings
agree on it, whatever they are for others. -/
theorem compile_isolated (htree : Tree.ofJoints name joints extra = .ok tree)
    (h : compile tree root (.ok requests) weights thresholds = .ok r)
    (h' : compile tree root (.ok requests) weights' thresholds' = .ok r') :
    r'.chains = r.chains ∧ r'.jointNames = r.jointNames ∧ r'.inputs = r.inputs ∧
      r'.hard = r.hard ∧ (∀ a b, r'.frame a b = r.frame a b) ∧ r'.log = r.log ∧
      r'.controllables.map (·.joint) = r.controllables.map (·.joint) ∧
      ∀ c ∈ r.controllables, ∀ c' ∈ r'.controllables, c'.joint = c.joint →
        c'.input = c.input ∧
          (AgreeOn weights weights' thresholds thresholds' c.joint →
            c' = c ∧ ∀ q, c'.valuesAt q = c.valuesAt q) := by
  have hrooted := Tree.isRooted_of_ofJoints htree
  obtain ⟨_, -, hr⟩ := aligned_of_compile h
  obtain ⟨_, -, hr'⟩ := aligned_of_compile h'
  have hgiven := madeFrom_of_compile h
  have hgiven' := madeFrom_of_compile h'
  obtain ⟨s, s', hs, rfl, rfl⟩ :=
    resembles_of_compile hrooted hrooted (List.Subset.refl _) h h'
  refine ⟨hs.chains, congrArg Variables.names hs.inputs, hs.inputs, hs.hard, fun a b => ?_, ?_, ?_,
    fun c hc c' hc' hjoint => ?_⟩
  · exact congrArg (·.get (a, b)) hs.frames
  · rw [Robot.write, Robot.write, hs.log, hs.chains, hs.inputs]
  · rw [hr.controllables_eq, hr'.controllables_eq]
    exact hs.controllable_joint
  · rw [hr.controllables_eq] at hc
    rw [hr'.controllables_eq] at hc'
    obtain ⟨d, hd, halike⟩ := exists_of_mem_left hs.controllable hc
    -- No joint has two constraints, so this is the one in question.
    have hnodup : (s'.controllable.map (·.joint)).Nodup := by
      rw [show s'.controllable.map (·.joint) = _ from hr'.controllable_joint]
      exact hr'.nodup_jointNames
    obtain rfl : c' = d := List.inj_on_of_nodup_map hnodup hc' hd (hjoint.trans halike.joint.symm)
    refine ⟨halike.input, fun hagree => ?_⟩
    obtain rfl : c' = c := halike.eq_of_agree (by
      rw [show s.weights = weights from hgiven.weights_eq,
        show s'.weights = weights' from hgiven'.weights_eq,
        show s.thresholds = thresholds from hgiven.thresholds_eq,
        show s'.thresholds = thresholds' from hgiven'.thresholds_eq]
      exact hagree)
    exact ⟨rfl, fun _ => rfl⟩

/-- **The slide of the crane** is bounded alike however its slew is set, and whether a ghost has a
weight or not. -/
theorem compile_isolated_crane :
    ∃ r r', compile craneTree "rail" (.ok [.ends "cart" "hook", .tip "hook", .tip "cart"])
        [("slide", .int 1), ("slew", .int 1)] [] = .ok r ∧
      compile craneTree "rail" (.ok [.ends "cart" "hook", .tip "hook", .tip "cart"])
        [("slew", .int 7), ("ghost", .int (-3)), ("slide", .int 1)] [("slew", .int 0)] = .ok r' ∧
      r'.chains = r.chains ∧ r'.hard = r.hard ∧ (∀ a b, r'.frame a b = r.frame a b) ∧
      ∀ c ∈ r.controllables, ∀ c' ∈ r'.controllables, c.joint = "slide" → c'.joint = "slide" →
        c' = c := by
  have hsome : ((compile craneTree "rail" (.ok [.ends "cart" "hook", .tip "hook", .tip "cart"])
      [("slew", .int 7), ("ghost", .int (-3)), ("slide", .int 1)]
      [("slew", .int 0)]).toOption.map (·.size)) = some 2 := by
    decide +kernel
  obtain ⟨r, hok, -, -⟩ := exists_crane
  obtain ⟨r', hok', -⟩ := exists_of_map_toOption hsome
  obtain ⟨hchains, -, -, hhard, hframe, -, -, hbounds⟩ := compile_isolated ofJoints_crane hok hok'
  refine ⟨r, r', hok, hok', hchains, hhard, hframe, fun c hc c' hc' hslide hslide' => ?_⟩
  refine ((hbounds c hc c' hc' (hslide'.trans hslide.symm)).2 ?_).1
  rw [hslide]
  exact ⟨rfl, rfl, rfl, rfl⟩

/-! ### What joints elsewhere reach -/

/-- **Joints that are on no chain make no difference.** If a robot can be made from a tree, then it
can be made from every tree that has its joints and any others, and is the same: it has the same
chains, and its inputs, frames and constraints are the same, node by node. -/
theorem compile_extended (htree : Tree.ofJoints name joints extra = .ok tree)
    (htree' : Tree.ofJoints name' joints' extra' = .ok tree') (hsub : joints ⊆ joints')
    (h : compile tree root (.ok requests) weights thresholds = .ok r) :
    ∃ r', compile tree' root (.ok requests) weights thresholds = .ok r' ∧
      r'.chains = r.chains ∧ r'.jointNames = r.jointNames ∧ r'.inputs = r.inputs ∧
      r'.controllables = r.controllables ∧ r'.hard = r.hard ∧
      ∀ a b, r'.frame a b = r.frame a b := by
  have hrooted := Tree.isRooted_of_ofJoints htree
  have hrooted' := Tree.isRooted_of_ofJoints htree'
  have hjoints : tree.joints ⊆ tree'.joints := by
    obtain ⟨_, -, -, rfl⟩ := Tree.ofJoints_eq_ok_iff.1 htree
    obtain ⟨_, -, -, rfl⟩ := Tree.ofJoints_eq_ok_iff.1 htree'
    exact hsub
  -- What could be worked out from the tree can be from the larger one.
  obtain ⟨r', h'⟩ : ∃ r', compile tree' root (.ok requests) weights thresholds = .ok r' := by
    obtain ⟨keys, hkeys, hready⟩ := (exists_compile_iff hrooted).1 ⟨r, h⟩
    exact (exists_compile_iff hrooted').2
      ⟨keys, hkeys, fun key hkey => (hready key hkey).mono hjoints⟩
  have hgiven := madeFrom_of_compile h
  have hgiven' := madeFrom_of_compile h'
  obtain ⟨s, s', hs, rfl, rfl⟩ := resembles_of_compile hrooted hrooted' hjoints h h'
  have hcontrollable : s'.controllable = s.controllable :=
    hs.controllable_eq (hgiven'.weights_eq.trans hgiven.weights_eq.symm)
      (hgiven'.thresholds_eq.trans hgiven.thresholds_eq.symm)
  refine ⟨_, h', hs.chains, congrArg Variables.names hs.inputs, hs.inputs, ?_, hs.hard,
    fun a b => congrArg (·.get (a, b)) hs.frames⟩
  exact congrArg (List.mergeSort · fun c d => c.input ≤ d.input) hcontrollable

/-- The yard in which the crane stands: its rail drifts on the ground, and a dog strays from the
cart. Neither moves in a way that could be worked out. -/
noncomputable def yardJoints : List (Joint ℝ) :=
  ⟨"drift", .floating, "ground", "rail", .rest, Joint.defaultAxis, none⟩ ::
    craneJoints ++ [⟨"stray", .planar, "cart", "dog", .rest, Joint.defaultAxis, none⟩]

/-- **The crane in its yard** is the crane. -/
theorem compile_extended_crane :
    ∃ r r', compile craneTree "rail" (.ok [.ends "cart" "hook", .tip "hook", .tip "cart"])
        [("slide", .int 1), ("slew", .int 1)] [] = .ok r ∧
      compile (treeOf "yard" yardJoints [] "ground") "rail"
        (.ok [.ends "cart" "hook", .tip "hook", .tip "cart"])
        [("slide", .int 1), ("slew", .int 1)] [] = .ok r' ∧
      r'.jointNames = r.jointNames ∧ r'.controllables = r.controllables ∧ r'.hard = r.hard := by
  have hyard : Tree.ofJoints "yard" yardJoints [] = .ok (treeOf "yard" yardJoints [] "ground") := by
    cbv
  have hsub : craneJoints ⊆ yardJoints := fun j hj => by simp [yardJoints, hj]
  obtain ⟨r, hok, -, -⟩ := exists_crane
  obtain ⟨r', hok', -, hnames, -, hcontrollable, hhard, -⟩ :=
    compile_extended ofJoints_crane hyard hsub hok
  exact ⟨r, r', hok, hok', hnames, hcontrollable, hhard⟩

end Given

end Robot

end Linkage
