import Linkage.Proofs.Building
import Linkage.Proofs.Configuring
import Linkage.Robot
import Mathlib.Data.Option.Basic

/-!
# Of what a request is to blame

A request that names no chain is found out when its root and its tip are asked for, and nowhere
else. All other work on a robot *spares* the requests (`Linkage.Spares`): whatever it reports, it
is not that one of them is malformed. That is true of looking into a tree, of planning
frames and of reading settings, and it carries over from the parts of a sequence to the
whole, so that in the end only the requests are left to be blamed
(`Linkage.Robot.spares_compile`). A configuration that has been read holds none that could be
(`Linkage.Config.names_of_ofValue`).
-/

namespace Linkage

variable {α : Type} {β γ : Type}

/-! ### Sparing the requests -/

/-- **A result that blames no request**: it is not that one of them names no chain. -/
def Spares (x : Except (Fault α) β) : Prop := ∀ given, x ≠ .error (.malformedRequest given)

theorem spares_ok (x : β) : Spares (.ok x : Except (Fault α) β) := nofun

/-- What is reported is spared if it is of another class, -/
theorem spares_of_kind {fault : Fault α} (h : (fault.kind == .invalid) = false) :
    Spares (.error fault : Except (Fault α) β) := by
  rintro given heq
  obtain rfl := Except.error.inj heq
  cases h

/-- and so is a sequence all of which is. -/
theorem Spares.bind {x : Except (Fault α) β} {f : β → Except (Fault α) γ} (hx : Spares x)
    (hf : ∀ a, Spares (f a)) : Spares (x >>= f) := by
  cases x with
  | error fault => exact fun given h => hx given (congrArg _ (Except.error.inj h))
  | ok a => exact hf a

theorem Spares.error {x : Except (Fault α) β} {fault : Fault α} (hx : Spares x)
    (h : x = .error fault) : Spares (.error fault : Except (Fault α) γ) :=
  fun given heq => hx given (h.trans (congrArg _ (Except.error.inj heq)))

theorem Spares.map {x : Except (Fault α) β} (hx : Spares x) (f : β → γ) : Spares (x.map f) := by
  cases x with
  | error fault => exact fun given h => hx given (congrArg _ (Except.error.inj h))
  | ok a => exact spares_ok _

/-! ### Looking into a tree -/

namespace Tree

theorem spares_link (tree : Tree α) (name : String) : Spares (tree.link name) := by
  rw [link]
  split
  · exact spares_ok _
  · exact spares_of_kind rfl

theorem spares_joint (tree : Tree α) (name : String) : Spares (tree.joint name) := by
  rw [joint]
  split
  · exact spares_of_kind rfl
  split
  · exact spares_ok _
  · exact spares_of_kind rfl

theorem spares_parentJoint (tree : Tree α) (link : String) : Spares (tree.parentJoint link) := by
  refine (tree.spares_link link).bind fun l => ?_
  split
  · exact spares_ok _
  · exact (tree.spares_joint _).bind fun _ => spares_ok _

theorem spares_parentLinks (tree : Tree α) : Spares tree.parentLinks := by
  rw [parentLinks]
  generalize tree.links = ls
  induction ls with
  | nil => exact spares_ok _
  | cons l ls ih =>
    rw [parentLinksOf]
    split
    · exact ih
    · exact (tree.spares_joint _).bind fun _ => ih.bind fun _ => spares_ok _

/-- **Climbing** ends at the root, at a link with nothing above it, or not at all. -/
theorem spares_climb? (tree : Tree α) (above : ParentLinks) (root : String) (steps : Nat)
    (link : String) : ∀ x ∈ tree.climb? above root steps link, Spares x := by
  fun_induction tree.climb? above root steps link with
  | case1 => exact fun x hx => Option.some.inj hx ▸ spares_ok _
  | case2 steps link hroot fault hfault =>
    exact fun x hx => Option.some.inj hx ▸ (tree.spares_parentJoint link).error hfault
  | case3 => exact fun x hx => Option.some.inj hx ▸ spares_of_kind rfl
  | case4 => exact fun x hx => Option.some.inj hx ▸ spares_of_kind rfl
  | case5 => exact fun x hx => nomatch hx
  | case6 link hroot joint hjoint next hnext steps ih =>
    intro x hx
    obtain ⟨y, hy, rfl⟩ := Option.mem_map.1 hx
    exact (ih y hy).map _

theorem spares_pathNames (tree : Tree α) (above : ParentLinks) (root tip : String)
    (withFixed : Bool) : Spares (tree.pathNames above root tip withFixed) := by
  refine Spares.map ?_ _
  rw [path]
  rcases h : tree.climb? above root tree.links.length tip with _ | x
  · exact spares_of_kind rfl
  · exact tree.spares_climb? above root _ _ x h

end Tree

/-! ### Planning frames -/

/-- Results one after the other are spared if each of them is. -/
theorem spares_mapM {f : β → Except (Fault α) γ} (hf : ∀ x, Spares (f x)) (xs : List β) :
    Spares (xs.mapM f) := by
  intro given h
  obtain ⟨_, x, _, -, -, hx⟩ := mapM_eq_error_iff.1 h
  exact hf x given hx

theorem Variables.spares_lookup (vs : Variables) (name : String) :
    Spares (vs.lookup name : Except (Fault α) Variable) := by
  rw [lookup]
  split
  · exact spares_ok _
  · exact spares_of_kind rfl

theorem spares_three (xs : List β) : Spares (three xs : Except (Fault α) _) := by
  unfold three
  split
  · exact spares_ok _
  · split
    · exact spares_of_kind rfl
    · exact spares_of_kind rfl

theorem spares_four (xs : List β) : Spares (four xs : Except (Fault α) _) := by
  unfold four
  split
  · exact spares_ok _
  · split
    · exact spares_of_kind rfl
    · exact spares_of_kind rfl

variable [Scalar α]

theorem Number.spares_toScalar (x : Number α) : Spares x.toScalar := by
  rw [toScalar]
  split
  · exact spares_ok _
  · exact spares_of_kind rfl

theorem Vec3.spares_ofNumbers (xs : List (Number α)) : Spares (Vec3.ofNumbers xs) := by
  refine (spares_three xs).bind ?_
  rintro ⟨x, y, z⟩
  refine x.spares_toScalar.bind fun _ => y.spares_toScalar.bind fun _ => ?_
  exact z.spares_toScalar.bind fun _ => spares_ok _

theorem Pose.spares_plan (pose : Pose α) : Spares pose.plan := by
  refine (spares_four pose.rotation).bind ?_
  rintro ⟨w, x, y, z⟩
  exact (Vec3.spares_ofNumbers pose.position).bind fun _ => spares_ok _

/-- **The motion of a joint** may not be one that is known. -/
theorem Joint.spares_motionPlan (j : Joint α) (vs : Variables) : Spares (j.motionPlan vs) := by
  unfold motionPlan
  split
  case h_1 => exact spares_ok _
  case h_2 | h_3 | h_4 =>
    refine (Vec3.spares_ofNumbers j.axis).bind fun _ => ?_
    exact (vs.spares_lookup j.name).bind fun _ => spares_ok _
  all_goals exact spares_of_kind (by rw [j.kind_typeFault]; rfl)

theorem Joint.spares_plan (j : Joint α) (vs : Variables) : Spares (j.plan vs) :=
  j.origin.spares_plan.bind fun _ => (j.spares_motionPlan vs).bind fun _ => spares_ok _

theorem spares_planOf (tree : Tree α) (vs : Variables) (names : List String) :
    Spares (planOf tree vs names) :=
  spares_mapM (fun name => (tree.spares_joint name).bind fun j => j.spares_plan vs) names

/-- **The frame of a chain** is kept, or is laid out once it has been planned. -/
theorem FrameTable.spares_getOrBuild (t : FrameTable α) (tree : Tree α) (vs : Variables)
    (key : ChainKey) (names : List String) (n : Nat) :
    Spares (t.getOrBuild tree vs key names n) := by
  rcases hkey : t.contains key with _ | _
  · rw [getOrBuild_of_not_contains hkey, chainFrame_eq]
    exact ((spares_planOf tree vs names).map _).map _
  · obtain ⟨f, hf⟩ := Option.isSome_iff_exists.1 hkey
    rw [getOrBuild, hf]
    exact spares_ok _

/-! ### Reading settings -/

/-- **A weight** may be invalid, which is no request's fault. -/
theorem spares_resolveWeight (joint : String) (weights : Settings α) :
    Spares (resolveWeight joint weights) := by
  rw [resolveWeight]
  split
  · exact spares_of_kind rfl
  · split
    · exact Number.spares_toScalar _
    · rintro given heq
      cases heq

theorem spares_resolveVelocity (j : Joint α) (thresholds : Settings α) :
    Spares (resolveVelocity j thresholds) := by
  rw [resolveVelocity]
  split
  · exact spares_of_kind rfl
  · dsimp only
    split
    · exact Number.spares_toScalar _
    · exact spares_of_kind rfl

theorem Joint.spares_controllable (j : Joint α) (v : Variable) (weights thresholds : Settings α)
    (n : Nat) : Spares (j.controllable v weights thresholds n) := by
  rw [controllable_eq_bind]
  refine (spares_resolveWeight j.name weights).bind fun _ => ?_
  exact (spares_resolveVelocity j thresholds).bind fun _ => spares_ok _

omit [Scalar α] in
theorem Joint.spares_hard (j : Joint α) (v : Variable) (n : Nat) : Spares (j.hard v n) := by
  rw [hard_eq]
  split
  · split
    · exact spares_of_kind rfl
    · exact spares_ok _
  · exact spares_ok _

/-! ### Making a robot -/

/-- **A request that names a chain.** -/
def ChainRequest.Names (q : ChainRequest) : Prop := ∀ given, q ≠ .malformed given

omit [Scalar α] in
theorem ChainRequest.Names.spares_key {q : ChainRequest} (hq : q.Names) (root : String) :
    Spares (q.key root : Except (Fault α) ChainKey) := by
  cases q with
  | tip link => exact spares_ok _
  | ends first second => exact spares_ok _
  | malformed given => exact absurd rfl (hq given)

namespace Robot

/-- **Work on a robot that blames no request**, if it fails. -/
def Spares (x : Except (Failure α) β) : Prop :=
  ∀ failure, x = .error failure → ∀ given, failure.fault ≠ .malformedRequest given

omit [Scalar α] in
theorem spares_done (x : β) : Spares (.ok x : Except (Failure α) β) := nofun

omit [Scalar α] in
theorem Spares.bind {x : Except (Failure α) β} {f : β → Except (Failure α) γ} (hx : Spares x)
    (hf : ∀ a, Spares (f a)) : Spares (x >>= f) := by
  cases x with
  | error failure => exact fun failure' h => hx failure' (congrArg _ (Except.error.inj h))
  | ok a => exact hf a

omit [Scalar α] in
theorem spares_attempt (r : Robot α) {x : Except (Fault α) β} (hx : Linkage.Spares x) :
    Spares (r.attempt x) := by
  cases x with
  | error fault =>
    intro failure h given heq
    obtain rfl := Except.error.inj h
    exact hx given (congrArg _ heq)
  | ok a => exact spares_done a

omit [Scalar α] in
theorem spares_build (r : Robot α) {b : Builder α β} (hb : Linkage.Spares (b r.nextId)) :
    Spares (r.build b) := by
  intro failure h
  exact r.spares_attempt hb failure (of_map_eq_error h)

theorem spares_constrain (r : Robot α) (name : String) : Spares (r.constrain name) := by
  rw [constrain]
  split
  · exact spares_done _
  refine (r.spares_attempt (r.tree.spares_joint name)).bind fun j => ?_
  refine (r.spares_attempt (r.inputs.spares_lookup name)).bind fun v => ?_
  refine (r.spares_build (j.spares_controllable v _ _ _)).bind ?_
  rintro ⟨c, r⟩
  exact (r.spares_build (j.spares_hard v _)).bind fun _ => spares_done _

theorem spares_constrainAll (r : Robot α) (names : List String) :
    Spares (r.constrainAll names) := by
  induction names generalizing r with
  | nil => exact spares_done r
  | cons name names ih => exact (r.spares_constrain name).bind ih

theorem spares_addChain (r : Robot α) (key : ChainKey) : Spares (r.addChain key) := by
  have hpath : ∀ withFixed, Spares (r.attempt (r.pathNames key.1 key.2 withFixed)) :=
    fun withFixed => r.spares_attempt (r.tree.spares_pathNames r.above key.1 key.2 withFixed)
  rw [addChain]
  split
  · exact spares_done _
  refine (hpath false).bind fun moving => (hpath true).bind fun all => ?_
  refine (spares_build _ (FrameTable.spares_getOrBuild _ _ _ key all _)).bind ?_
  rintro ⟨⟨f, frames⟩, r⟩
  exact (spares_constrainAll _ moving).bind fun _ => spares_done _

theorem spares_addChains (r : Robot α) {requests : List ChainRequest}
    (hrequests : ∀ q ∈ requests, q.Names) : Spares (r.addChains requests) := by
  induction requests generalizing r with
  | nil => exact spares_done r
  | cons q requests ih =>
    rw [List.forall_mem_cons] at hrequests
    refine (r.spares_attempt (hrequests.1.spares_key r.root)).bind fun key => ?_
    exact (r.spares_addChain key).bind fun r => ih r hrequests.2

/-- **Where every request names a chain** none is blamed. -/
theorem spares_compile (tree : Tree α) (root : String) {requests : List ChainRequest}
    (hrequests : ∀ q ∈ requests, q.Names) (weights thresholds : Settings α) :
    Spares (compile tree root (.ok requests) weights thresholds) := by
  rw [compile]
  split
  · next fault habove =>
    intro failure h given heq
    obtain rfl := Except.error.inj h
    exact tree.spares_parentLinks given (habove.trans (congrArg _ heq))
  · exact (spares_addChains _ hrequests).bind fun _ => spares_done _

end Robot

/-! ### Configurations -/

namespace Config

variable {v : Value} {config : Config}

/-- Reading a configuration blames no request, as none has been made yet, -/
theorem spares_ofValue (v : Value) : Linkage.Spares (ofValue v) := by
  intro given h
  rcases hentries : v.entries? with _ | entries
  · rw [ofValue, hentries] at h
    cases h
  · obtain ⟨look, -, ⟨hdefect, -⟩ | ⟨hstray⟩⟩ := (ofValue_eq_error_iff hentries).1 h
    · cases hdefect
    · cases hstray

/-- **A configuration that has been read** asks for chains by name, -/
theorem names_of_ofValue (h : ofValue v = .ok config) : ∀ q ∈ config.chains, q.Names := by
  rcases hentries : v.entries? with _ | entries
  · rw [ofValue, hentries] at h
    cases h
  · obtain ⟨tips, ends, -, -, hchains⟩ := (isRead_of_ofValue hentries h).chains
    intro q hq given heq
    rw [hchains, List.mem_append, List.mem_map, List.mem_map] at hq
    rcases hq with ⟨tip, -, rfl⟩ | ⟨key, -, rfl⟩
    · cases heq
    · cases heq

/-- so no request of it is ever blamed. -/
theorem spares_ofConfig (h : ofValue v = .ok config) (tree : Tree Float) :
    Robot.Spares (Robot.ofConfig tree config) :=
  Robot.spares_compile tree config.root (names_of_ofValue h) _ _

end Config

end Linkage
