import Linkage.Proofs.Steps
import Mathlib.Data.List.Forall2

/-!
# What a robot keeps in step

A robot keeps five lists while it is made: the variables it has handed out, the frames it has
built, the chains it has, and its constraints of both sorts. Each grows in a place of its own,
and nothing compares them afterwards. That they agree in the end is because all of them are
determined by one thing, the chains asked for so far. Of a list of things asked for, each is
had once, in the place where it was first asked for, and that is what `List.eraseDups` leaves
of the list.

What is said of the lists is said in terms of what was asked for, repetitions and all:

* `Linkage.Variables.Serve` – the variables are those of the joints asked for, and stand
  where they read;
* `Linkage.Robot.Covers` – the constraints are those of the joints asked for, on those very
  variables;
* `Linkage.Robot.Aligned` – chains and frames are those asked for, and the joints asked for
  are those on the chains, one chain after the other.

A step with something that is had already changes none of the lists, and that is also what
asking for it once more does to `List.eraseDups`. Any other step adds to the end of both. So
every chain leaves the robot aligned, whatever it shares with those before, and
`Linkage.Robot.compile_aligned` says what that comes to once the robot is made.
-/

namespace Linkage

/-! ### Things asked for once more -/

section FirstOccurrences

variable {β : Type} [BEq β] [LawfulBEq β] {xs : List β} {x : β}

/-- What was asked for before makes no difference. -/
theorem eraseDups_concat_of_mem (h : x ∈ xs) : (xs ++ [x]).eraseDups = xs.eraseDups := by
  have hnil : [x].removeAll xs = [] := by simp [List.removeAll, h]
  rw [List.eraseDups_append, hnil, List.eraseDups_nil, List.append_nil]

/-- What was not asked for before comes last. -/
theorem eraseDups_concat_of_not_mem (h : x ∉ xs) :
    (xs ++ [x]).eraseDups = xs.eraseDups ++ [x] := by
  have hone : [x].removeAll xs = [x] := by simp [List.removeAll, h]
  rw [List.eraseDups_append, hone, List.eraseDups_cons, List.filter_nil, List.eraseDups_nil]

end FirstOccurrences

/-! ### Variables -/

namespace Variables

variable {vs : Variables} {asked : List String} {name : String}

theorem contains_iff_mem_names : vs.contains name = true ↔ name ∈ vs.names := by
  simp [contains, find?, names, List.find?_isSome]

/-- A joint that has no variable is not found. -/
theorem lookup_of_not_mem {α : Type} (h : name ∉ vs.names) :
    vs.lookup name = .error (Fault.unregistered name : Fault α) := by
  rw [← contains_iff_mem_names, contains, Bool.not_eq_true, Option.isSome_eq_false_iff,
    Option.isNone_iff_eq_none] at h
  rw [lookup, h]

/-- **Variables for the joints asked for**, each in the place of the entry that it reads. -/
structure Serve (vs : Variables) (asked : List String) : Prop where
  names_eq : vs.names = asked.eraseDups
  numbered : ∀ (i : Nat) (v : Variable), vs.list[i]? = some v → v.index = i

theorem serve_empty : Serve .empty [] where
  names_eq := rfl
  numbered _ _ h := by cases h

theorem Serve.mem_names (h : vs.Serve asked) : name ∈ vs.names ↔ name ∈ asked := by
  rw [h.names_eq, List.mem_eraseDups]

/-- A joint that has a variable may be asked for again. -/
theorem Serve.again (h : vs.Serve asked) (hname : vs.contains name = true) :
    vs.Serve (asked ++ [name]) where
  names_eq := by
    have hmem : name ∈ asked := h.mem_names.1 (contains_iff_mem_names.1 hname)
    rw [eraseDups_concat_of_mem hmem, h.names_eq]
  numbered := h.numbered

/-- A variable for a joint that has none goes into the first free place. -/
theorem Serve.push (h : vs.Serve asked) (hname : vs.contains name = false) (id : Nat) :
    (vs.push id name).Serve (asked ++ [name]) where
  names_eq := by
    have hmem : name ∉ asked := by
      rw [← h.mem_names, ← contains_iff_mem_names, hname]
      exact Bool.false_ne_true
    rw [eraseDups_concat_of_not_mem hmem, ← h.names_eq]
    exact List.map_append
  numbered i v hv := by
    rw [Variables.push, List.getElem?_append] at hv
    split at hv
    · exact h.numbered i v hv
    · rename_i hi
      obtain ⟨hlt, hlast⟩ := List.getElem?_eq_some_iff.1 hv
      have hplace : i = vs.size := by
        rw [List.length_singleton] at hlt
        rw [Variables.size]
        omega
      rw [List.getElem_singleton] at hlast
      rw [hplace, ← hlast]

/-- **Handing out a variable** serves the joint as well, whether it has one already or not. -/
theorem Serve.assign (h : vs.Serve asked) (fresh : Nat) (name : String) :
    (vs.assign fresh name).2.1.Serve (asked ++ [name]) := by
  rw [Variables.assign]
  rcases hname : vs.find? name with _ | v
  · exact h.push (by rw [contains, hname, Option.isSome_none]) fresh
  · exact h.again (by rw [contains, hname, Option.isSome_some])

/-- **The joint of each place has the variable there.** -/
theorem Serve.find?_of_getElem? (h : vs.Serve asked) {i : Nat} (hi : vs.names[i]? = some name) :
    ∃ v, vs.find? name = some v ∧ v.index = i := by
  have hn : (vs.list.map (·.name)).Nodup := by
    have heq : vs.list.map (·.name) = asked.eraseDups := h.names_eq
    rw [heq]
    exact nodup_eraseDups asked
  rw [names, List.getElem?_map, Option.map_eq_some_iff] at hi
  obtain ⟨v, hv, rfl⟩ := hi
  refine ⟨v, ?_, h.numbered i v hv⟩
  exact (find?_eq_some_iff_of_nodup Variable.name hn).2 ⟨List.mem_of_getElem? hv, rfl⟩

end Variables

/-! ### Frames -/

theorem FrameTable.contains_iff_mem_keys {α : Type} {t : FrameTable α} {key : ChainKey} :
    t.contains key = true ↔ key ∈ t.keys := by
  rw [contains, Option.isSome_iff_ne_none, ne_eq, List.lookup_eq_none_iff, keys, List.mem_map]
  grind

namespace Robot

/-! ### Inputs -/

section Inputs

variable {α : Type}

/-- **Handing out inputs** serves the joints named as well. By induction on the joints: one that
is served already is asked for again, and any other takes the first free place. -/
theorem serve_assignAll {r : Robot α} {asked : List String} (h : r.inputs.Serve asked)
    (names : List String) : (r.assignAll names).inputs.Serve (asked ++ names) := by
  induction names generalizing r asked with
  | nil =>
    rw [List.append_nil]
    exact h
  | cons name names ih =>
    rw [assignAll, List.append_cons asked name names]
    split
    · rename_i hname
      exact ih (h.again hname)
    · exact ih (h.assign r.nextId name)

end Inputs

/-! ### Constraints -/

variable {α : Type}

/-- **Constraints for the joints asked for.** There is a controllable constraint for each,
and a hard one for each whose motion has an end, both in the order in which the joints were
first asked for. They speak of the variables that the joints have. -/
structure Covers (r : Robot α) (asked : List String) : Prop where
  controllable_eq : r.controllable.map (·.joint) = asked.eraseDups
  input_eq : ∀ c ∈ r.controllable, ∃ v, r.joint c.joint = .ok v ∧ c.input = v.index
  hard_eq : ∃ joints,
    List.Forall₂ (fun name j => r.tree.joint name = .ok j) asked.eraseDups joints ∧
    r.hard.map (·.joint) = (joints.filter fun j => j.type.isBounded).map (·.name)
  value_eq : ∀ c ∈ r.hard, ∃ v, r.joint c.joint = .ok v ∧ c.value = .input v

theorem joint_eq_ok_iff {r : Robot α} {name : String} {v : Variable} :
    r.joint name = .ok v ↔ r.inputs.find? name = some v :=
  Variables.lookup_eq_ok_iff

theorem isConstrained_iff {r : Robot α} {name : String} :
    r.isConstrained name = true ↔ name ∈ r.controllable.map (·.joint) := by
  simp [isConstrained]

/-- Constraints stay what they are when further joints get variables. -/
theorem Covers.of_keeps {r r' : Robot α} {asked : List String} (h : r.Covers asked)
    (htree : r'.tree = r.tree) (hcontrollable : r'.controllable = r.controllable)
    (hhard : r'.hard = r.hard)
    (hkeep : ∀ name v, r.inputs.find? name = some v → r'.inputs.find? name = some v) :
    r'.Covers asked := by
  have hjoint : ∀ name v, r.joint name = .ok v → r'.joint name = .ok v := by
    intro name v hv
    exact joint_eq_ok_iff.2 (hkeep name v (joint_eq_ok_iff.1 hv))
  refine ⟨by rw [hcontrollable, h.controllable_eq], fun c hc => ?_,
    by rw [htree, hhard]; exact h.hard_eq, fun c hc => ?_⟩
  · obtain ⟨v, hv, hindex⟩ := h.input_eq c (hcontrollable ▸ hc)
    exact ⟨v, hjoint c.joint v hv, hindex⟩
  · obtain ⟨v, hv, hvalue⟩ := h.value_eq c (hhard ▸ hc)
    exact ⟨v, hjoint c.joint v hv, hvalue⟩

/-- A joint with constraints may be asked for again. -/
theorem Covers.again {r : Robot α} {asked : List String} (h : r.Covers asked) {name : String}
    (hname : name ∈ asked) : r.Covers (asked ++ [name]) := by
  have hsame := eraseDups_concat_of_mem hname
  refine ⟨?_, h.input_eq, ?_, h.value_eq⟩
  · rw [hsame, h.controllable_eq]
  · rw [hsame]
    exact h.hard_eq

/-- **The constraints of one joint more** come last. -/
theorem Covers.add {r : Robot α} {asked : List String} (h : r.Covers asked) {j : Joint α}
    (hname : j.name ∉ asked) (hj : r.tree.joint j.name = .ok j) {v : Variable}
    (hv : r.joint j.name = .ok v) {c : Controllable α} (hc : c.joint = j.name ∧ c.input = v.index)
    {b : Option (Hard α)} (hb : b.map (·.joint) = if j.type.isBounded then some j.name else none)
    (hvalue : ∀ c ∈ b, c.joint = j.name ∧ c.value = .input v) (n : Nat) :
    Covers { r with
      controllable := r.controllable ++ [c], hard := r.hard ++ b.toList, nextId := n }
      (asked ++ [j.name]) := by
  have hlast := eraseDups_concat_of_not_mem hname
  refine ⟨?_, fun d hd => ?_, ?_, fun d hd => ?_⟩
  · rw [hlast, List.map_append, h.controllable_eq, List.map_singleton, hc.1]
  · rcases List.mem_append.1 hd with hbefore | hnow
    · exact h.input_eq d hbefore
    · rw [List.mem_singleton.1 hnow, hc.1]
      exact ⟨v, hv, hc.2⟩
  · obtain ⟨joints, hjoints, hhard⟩ := h.hard_eq
    refine ⟨joints ++ [j], ?_, ?_⟩
    · rw [hlast]
      exact forall₂_concat hjoints hj
    · have hlist : b.toList.map (·.joint) =
          ([j].filter fun j => j.type.isBounded).map (·.name) := by
        rw [← Option.toList_map, hb]
        cases hbounded : j.type.isBounded <;> simp [hbounded]
      rw [List.map_append, hhard, List.filter_append, List.map_append, hlist]
  · rcases List.mem_append.1 hd with hbefore | hnow
    · exact h.value_eq d hbefore
    · have hd : d ∈ b := Option.mem_toList.1 hnow
      rw [(hvalue d hd).1]
      exact ⟨v, hv, (hvalue d hd).2⟩

variable [Scalar α]

/-- **One joint more is constrained**, if it is not yet. -/
theorem Covers.constrain {r r' : Robot α} {asked : List String} (h : r.Covers asked)
    {name : String} (hok : r.constrain name = .ok r') : r'.Covers (asked ++ [name]) := by
  have hmem : r.isConstrained name = true ↔ name ∈ asked := by
    rw [isConstrained_iff, h.controllable_eq, List.mem_eraseDups]
  rcases constrain_eq_ok hok with ⟨hdone, rfl⟩ | ⟨hdone, j, v, c, b, n, m, hj, hv, hc, hb, rfl⟩
  · exact h.again (hmem.1 hdone)
  · obtain ⟨_, _, -, -, rfl, -⟩ := controllable_eq_ok hc
    obtain ⟨hbounded, hvalue⟩ := hard_eq_ok hb
    have hname : name ∉ asked := fun hname => by
      rw [hmem.2 hname] at hdone
      cases hdone
    -- The constraints carry the joint's own name, and it is found under the name asked for.
    obtain rfl := Tree.name_of_joint_eq hj
    exact h.add hname hj hv ⟨rfl, rfl⟩ hbounded
      (fun c hc => ⟨(hvalue c hc).1, (hvalue c hc).2.1⟩) m

/-- **Joints are constrained** in order. -/
theorem Covers.constrainAll {r r' : Robot α} {asked names : List String} (h : r.Covers asked)
    (hok : r.constrainAll names = .ok r') : r'.Covers (asked ++ names) := by
  induction names generalizing r asked with
  | nil =>
    obtain rfl := Except.ok.inj hok
    rw [List.append_nil]
    exact h
  | cons name names ih =>
    rw [Robot.constrainAll] at hok
    obtain ⟨r₁, hfirst, hok⟩ := exists_of_bind_eq_ok hok
    rw [List.append_cons asked name names]
    exact ih (h.constrain hfirst) hok

/-! ### Chains -/

/-- **A robot with the chains asked for**, and with all else that they ask for. -/
structure Aligned (tree : Tree α) (root : String) (asked : List ChainKey) (r : Robot α) :
    Prop where
  tree_eq : r.tree = tree
  root_eq : r.root = root
  chains_eq : r.chains = asked.eraseDups
  keys_eq : r.frames.keys = r.chains
  joints : ∃ paths, List.Forall₂ (fun key path => r.pathNames key.1 key.2 false = .ok path)
      r.chains paths ∧ r.inputs.Serve paths.flatten ∧ r.Covers paths.flatten

variable {tree : Tree α} {root : String}

omit [Scalar α] in
theorem aligned_bare (above : ParentLinks) (weights thresholds : Settings α) :
    Aligned tree root [] (bare tree root above weights thresholds) where
  tree_eq := rfl
  root_eq := rfl
  chains_eq := rfl
  keys_eq := rfl
  joints := by
    refine ⟨[], .nil, Variables.serve_empty, rfl, ?_, ⟨[], .nil, rfl⟩, ?_⟩
    · exact fun _ hc => absurd hc List.not_mem_nil
    · exact fun _ hc => absurd hc List.not_mem_nil

omit [Scalar α] in
/-- The chains of an aligned robot are those that were asked for. -/
theorem Aligned.mem_chains_iff {asked : List ChainKey} {r : Robot α}
    (hr : Aligned tree root asked r) {key : ChainKey} : key ∈ r.chains ↔ key ∈ asked := by
  rw [hr.chains_eq, List.mem_eraseDups]

omit [Scalar α] in
theorem Aligned.contains_iff {asked : List ChainKey} {r : Robot α}
    (hr : Aligned tree root asked r) {key : ChainKey} :
    r.frames.contains key = true ↔ key ∈ asked := by
  rw [FrameTable.contains_iff_mem_keys, hr.keys_eq, hr.mem_chains_iff]

omit [Scalar α] in
/-- What is written makes no difference. -/
theorem Aligned.write {asked : List ChainKey} {r : Robot α} (hr : Aligned tree root asked r)
    (line : LogLine) : Aligned tree root asked (r.write line) := by
  obtain ⟨htree, hroot, hchains, hkeys, paths, hpaths, hserve, hcovers⟩ := hr
  exact ⟨htree, hroot, hchains, hkeys, paths, hpaths, hserve,
    hcovers.of_keeps rfl rfl rfl fun _ _ h => h⟩

/-- **One chain more leaves a robot aligned.** A chain that it has already changes nothing.
A new one comes last, and so do those of its joints that no chain before has. -/
theorem Aligned.addChain {asked : List ChainKey} {r r' : Robot α}
    (hr : Aligned tree root asked r) {key : ChainKey} (hok : r.addChain key = .ok r') :
    Aligned tree root (asked ++ [key]) r' := by
  rcases addChain_eq_ok hok with ⟨hkey, rfl⟩ |
    ⟨hkey, moving, all, vs, n, log, f, m, r₂, hmoving, -, hassign, -, hconstrain, rfl⟩
  · have hsame := eraseDups_concat_of_mem (hr.contains_iff.1 hkey)
    obtain ⟨htree, hroot, hchains, hkeys, hjoints⟩ := hr.write (.repeated key)
    exact ⟨htree, hroot, hchains.trans hsame.symm, hkeys, hjoints⟩
  · have hlast := eraseDups_concat_of_not_mem (mt hr.contains_iff.2 (Bool.eq_false_iff.1 hkey))
    obtain ⟨rfl, rfl, hchains, hkeys, paths, hpaths, hserve, hcovers⟩ := hr
    -- First the inputs, then the frame, then the constraints.
    have hserve' := serve_assignAll hserve moving
    have hkeep := fun name v (hv : r.inputs.find? name = some v) => find?_assignAll hv moving
    rw [hassign] at hserve' hkeep
    have hcovers' : Covers { r with
        inputs := vs, nextId := m, log := log, frames := ⟨r.frames.entries ++ [(key, f)]⟩,
        chains := r.chains ++ [key] } paths.flatten := hcovers.of_keeps rfl rfl rfl hkeep
    have hcovers := hcovers'.constrainAll hconstrain
    obtain ⟨cs, hs, k, rfl⟩ := constrainAll_eq_ok hconstrain
    refine ⟨rfl, rfl, ?_, ?_, paths ++ [moving], ?_, ?_, ?_⟩
    · rw [hlast, ← hchains]
      rfl
    · change (r.frames.entries ++ [(key, f)]).map Prod.fst = r.chains ++ [key]
      rw [List.map_append, ← hkeys]
      rfl
    · exact forall₂_concat hpaths hmoving
    · rw [List.flatten_concat]
      exact hserve'
    · rw [List.flatten_concat]
      exact hcovers.of_keeps rfl rfl rfl fun _ _ h => h

/-- **All chains that are asked for leave a robot aligned.** -/
theorem Aligned.addChains {asked : List ChainKey} {r r' : Robot α}
    (hr : Aligned tree root asked r) {requests : List ChainRequest}
    (hok : r.addChains requests = .ok r') :
    ∃ keys, Names (α := α) root requests keys ∧ Aligned tree root (asked ++ keys) r' := by
  induction requests generalizing r asked with
  | nil =>
    obtain rfl := Except.ok.inj hok
    refine ⟨[], .nil, ?_⟩
    rw [List.append_nil]
    exact hr
  | cons q requests ih =>
    rw [Robot.addChains] at hok
    obtain ⟨key, hkey, hok⟩ := exists_of_bind_eq_ok hok
    obtain ⟨r₁, hadd, hok⟩ := exists_of_bind_eq_ok hok
    have hkey := of_attempt_eq_ok hkey
    rw [hr.root_eq] at hkey
    obtain ⟨keys, hkeys, hr'⟩ := ih (hr.addChain hadd) hok
    rw [← List.append_cons] at hr'
    exact ⟨key :: keys, .cons hkey hkeys, hr'⟩

/-! ### The robot that is made -/

omit [Scalar α] in
/-- **The controllable constraints stand where their joints read.** -/
theorem Covers.input_of_getElem? {r : Robot α} {asked : List String} (h : r.Covers asked)
    (hserve : r.inputs.Serve asked) {i : Nat} {c : Controllable α}
    (hc : r.controllable[i]? = some c) : c.input = i := by
  have hname : r.inputs.names[i]? = some c.joint := by
    rw [hserve.names_eq, ← h.controllable_eq, List.getElem?_map, hc, Option.map_some]
  obtain ⟨v, hv, hindex⟩ := hserve.find?_of_getElem? hname
  obtain ⟨w, hw, hinput⟩ := h.input_eq c (List.mem_of_getElem? hc)
  obtain rfl := Option.some.inj (hv.symm.trans (joint_eq_ok_iff.1 hw))
  rw [hinput, hindex]

omit [Scalar α] in
/-- **So they need not be sorted.** -/
theorem Covers.controllables_eq {r : Robot α} {asked : List String} (h : r.Covers asked)
    (hserve : r.inputs.Serve asked) : r.controllables = r.controllable := by
  rw [controllables]
  refine List.mergeSort_of_pairwise (List.pairwise_iff_getElem.2 fun i j hi hj hij => ?_)
  have hi := h.input_of_getElem? hserve (List.getElem?_eq_getElem hi)
  have hj := h.input_of_getElem? hserve (List.getElem?_eq_getElem hj)
  rw [hi, hj, decide_eq_true_eq]
  exact Int.ofNat_le.2 (Nat.le_of_lt hij)

omit [Scalar α] in
/-- **Every chain has a frame**, and the frames to build tasks from are those. -/
theorem Aligned.scope_eq {asked : List ChainKey} {r : Robot α} (hr : Aligned tree root asked r) :
    ∃ scope, r.scope = .ok scope ∧
      List.Forall₂ (fun key e => e.1 = key.2 ∧ r.frame key.1 key.2 = .ok e.2) r.chains scope := by
  have hframe : ∀ key ∈ r.chains, ∃ f, r.frame key.1 key.2 = .ok f := by
    intro key hkey
    rw [← hr.keys_eq, ← FrameTable.contains_iff_mem_keys, FrameTable.contains,
      Option.isSome_iff_exists] at hkey
    obtain ⟨f, hf⟩ := hkey
    exact ⟨f, by rw [frame, FrameTable.get, hf]⟩
  obtain ⟨scope, hscope⟩ := exists_mapM_eq_ok
    (f := fun key => (r.frames.get key).map (key.2, ·)) fun key hkey => by
      obtain ⟨f, hf⟩ := hframe key hkey
      exact ⟨(key.2, f), by rw [show r.frames.get key = .ok f from hf]; rfl⟩
  refine ⟨scope, hscope, (mapM_eq_ok_iff.1 hscope).imp fun key e he => ?_⟩
  obtain ⟨f, hf, rfl⟩ := exists_of_map_eq_ok he
  exact ⟨rfl, hf⟩

/-- **A robot that is made is aligned.** -/
theorem aligned_of_compile {requests : List ChainRequest} {weights thresholds : Settings α}
    {r : Robot α} (h : compile tree root (.ok requests) weights thresholds = .ok r) :
    ∃ keys, Names (α := α) root requests keys ∧ Aligned tree root keys r := by
  obtain ⟨above, r₀, line, -, hadd, rfl⟩ := compile_eq_ok h
  obtain ⟨keys, hkeys, hr⟩ := (aligned_bare above weights thresholds).addChains hadd
  rw [List.nil_append] at hr
  exact ⟨keys, hkeys, hr.write line⟩

/-- **A robot that is made keeps everything in step.** Its chains are those asked for, each
once, and the joints that have inputs are those that move on its chains, each once, in the
order in which they are met. In this order they read the entries of the input vector, have
one controllable constraint each, and one hard constraint each if their motion has an end. The
frames to build tasks from are those of the chains. -/
theorem compile_aligned {requests : List ChainRequest} {weights thresholds : Settings α}
    {r : Robot α} (h : compile tree root (.ok requests) weights thresholds = .ok r) :
    ∃ keys paths joints scope, Names (α := α) root requests keys ∧ r.tree = tree ∧
      r.chains = keys.eraseDups ∧
      List.Forall₂ (fun key path => r.pathNames key.1 key.2 false = .ok path) r.chains paths ∧
      r.jointNames = paths.flatten.eraseDups ∧ r.size = r.jointNames.length ∧
      (∀ (i : Nat) name, r.jointNames[i]? = some name → ∃ v, r.joint name = .ok v ∧ v.index = i) ∧
      r.controllables.map (·.joint) = r.jointNames ∧
      (∀ (i : Nat) c, r.controllables[i]? = some c → c.input = i) ∧
      List.Forall₂ (fun name j => tree.joint name = .ok j) r.jointNames joints ∧
      r.hard.map (·.joint) =
        (joints.filter fun j => j.type = .revolute ∨ j.type = .prismatic).map (·.name) ∧
      (∀ c ∈ r.hard, ∃ v, r.joint c.joint = .ok v ∧ c.value = .input v) ∧
      r.scope = .ok scope ∧
      List.Forall₂ (fun key e => e.1 = key.2 ∧ r.frame key.1 key.2 = .ok e.2) r.chains scope := by
  rw [compile] at h
  rcases habove : tree.parentLinks with fault | above
  · rw [habove] at h
    cases h
  rw [habove] at h
  obtain ⟨r, hadd, h⟩ := exists_of_bind_eq_ok h
  obtain rfl := Except.ok.inj h
  obtain ⟨keys, hkeys, hr⟩ := (aligned_bare above weights thresholds).addChains hadd
  obtain ⟨scope, hscope, hentries⟩ := hr.scope_eq
  obtain ⟨rfl, -, hchains, -, paths, hpaths, hserve, hcovers⟩ := hr
  obtain ⟨joints, hjoints, hhard⟩ := hcovers.hard_eq
  have hsort := hcovers.controllables_eq hserve
  rw [List.nil_append] at hchains
  refine ⟨keys, paths, joints, scope, hkeys, rfl, hchains, hpaths, hserve.names_eq, ?_, ?_, ?_, ?_,
    ?_, ?_, hcovers.value_eq, hscope, hentries⟩
  · exact (List.length_map _).symm
  · intro i name hi
    obtain ⟨v, hv, hindex⟩ := hserve.find?_of_getElem? hi
    exact ⟨v, joint_eq_ok_iff.2 hv, hindex⟩
  · change r.controllables.map (·.joint) = r.inputs.names
    rw [hsort, hcovers.controllable_eq, hserve.names_eq]
  · intro i c hc
    change r.controllables[i]? = some c at hc
    rw [hsort] at hc
    exact hcovers.input_of_getElem? hserve hc
  · change List.Forall₂ _ r.inputs.names joints
    rw [hserve.names_eq]
    exact hjoints
  · change r.hard.map (·.joint) = _
    rw [hhard]
    congr 2
    funext j
    rw [JointType.isBounded, Bool.decide_or]
    rfl

/-- The cart on its rail with the mast, as a tree. -/
def cartTree : Tree Float :=
  ⟨"cart", "rail", [⟨"rail", none⟩, ⟨"cart", some "slide"⟩, ⟨"mast", some "mount"⟩], cartJoints⟩

/-- **Asked for chains that repeat and overlap**, a robot has three, and all of its constraints
are on the joints that have inputs. -/
theorem compile_aligned_cart :
    ∃ r, compile cartTree "rail" (.ok [.tip "mast", .ends "cart" "mast", .tip "mast", .tip "cart"])
        [("slide", .real 1)] [] = .ok r ∧
      r.chains = [("rail", "mast"), ("cart", "mast"), ("rail", "cart")] ∧
      r.controllables.map (·.joint) = r.jointNames ∧
      ∀ c ∈ r.hard, ∃ v, r.joint c.joint = .ok v ∧ c.value = .input v := by
  have hsome : (compile cartTree "rail"
      (.ok [.tip "mast", .ends "cart" "mast", .tip "mast", .tip "cart"])
      [("slide", .real 1)] []).toOption.isSome = true := by
    decide +kernel
  rcases hok : compile cartTree "rail"
      (.ok [.tip "mast", .ends "cart" "mast", .tip "mast", .tip "cart"])
      [("slide", .real 1)] [] with failure | r
  · rw [hok] at hsome
    cases hsome
  · obtain ⟨keys, _, _, _, hkeys, -, hchains, -, -, -, -, hnames, -, -, -, hvalue, -⟩ :=
      compile_aligned hok
    have hall : keys =
        [("rail", "mast"), ("cart", "mast"), ("rail", "mast"), ("rail", "cart")] := by
      obtain _ | ⟨⟨⟩, _ | ⟨⟨⟩, _ | ⟨⟨⟩, _ | ⟨⟨⟩, ⟨⟩⟩⟩⟩⟩ := hkeys
      rfl
    refine ⟨r, rfl, ?_, hnames, hvalue⟩
    rw [hchains, hall]
    decide +kernel

end Robot

end Linkage
