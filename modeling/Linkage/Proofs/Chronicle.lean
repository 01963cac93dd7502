import Linkage.Proofs.Alignment

/-!
# What the record tells

While a robot is made, lines are written at three points of the work on a chain: when an input is
handed out, when the chain turns out to be there already, and when it is done. The work may stop
in between. What has been written at any moment is told here from the chains asked for by then and
from the paths of the tree (`Linkage.Chronicle`), and from nothing that the robot keeps:

* a chain that was asked for before takes one line;
* any other takes a line for each of its joints that had no input yet, in the order of the path,
  and then a line with the number of all its joints;
* a chain that fails has at most the lines of the first sort (`Linkage.Robot.addChain_eq_error`).

So the lines about inputs number the joints of the robot from zero on, in order
(`Linkage.Chronicle.filterMap_assigned?`), and the last line is there if and only if the robot is.
-/

namespace Linkage

variable {α : Type}

/-! ### Lines about inputs -/

/-- What a line about an input says. -/
def LogLine.assigned? : LogLine → Option (String × Int)
  | .assigned joint input => some (joint, input)
  | _ => none

/-- **The joints of a path that are new**: not among those given, each once, where it comes
first. -/
def newcomers (joints path : List String) : List String :=
  (path.filter fun name => name ∉ joints).eraseDups

/-- **The lines about the inputs of joints**, numbered from a number on. -/
def assignedLines (start : Nat) (joints : List String) : List LogLine :=
  (joints.zipIdx start).map fun p => .assigned p.1 p.2

/-- The joints with the numbers from zero on. -/
def numbered (joints : List String) : List (String × Int) := joints.zipIdx.map fun p => (p.1, p.2)

theorem newcomers_cons_of_mem {joints path : List String} {name : String} (h : name ∈ joints) :
    newcomers joints (name :: path) = newcomers joints path := by
  rw [newcomers, List.filter_cons_of_neg (by simpa using h), newcomers]

/-- A new joint is none any more once it has come. -/
theorem newcomers_cons_of_not_mem {joints path : List String} {name : String} (h : name ∉ joints) :
    newcomers joints (name :: path) = name :: newcomers (joints ++ [name]) path := by
  rw [newcomers, List.filter_cons_of_pos (by simpa using h), List.eraseDups_cons,
    List.filter_filter, newcomers]
  congr 2
  refine List.filter_congr fun other _ => ?_
  rw [Bool.eq_iff_iff]
  simp [and_comm]

theorem assignedLines_cons (start : Nat) (name : String) (joints : List String) :
    assignedLines start (name :: joints) =
      .assigned name start :: assignedLines (start + 1) joints := rfl

theorem filterMap_assignedLines (joints new : List String) :
    numbered joints ++ (assignedLines joints.length new).filterMap LogLine.assigned? =
      numbered (joints ++ new) := by
  rw [numbered, numbered, List.zipIdx_append, List.map_append, assignedLines, List.filterMap_map,
    Nat.zero_add]
  congr 1
  change List.filterMap (some ∘ fun p : String × Nat => (p.1, (p.2 : Int))) _ = _
  rw [List.filterMap_eq_map]

/-! ### The chronicle of a list of chains -/

/-- **What is written for a list of chains**, together with the joints that have inputs by then. -/
inductive Chronicle (tree : Tree α) (above : ParentLinks) :
    List ChainKey → List String → List LogLine → Prop
  /-- Nothing is written before the first chain. -/
  | nil : Chronicle tree above [] [] []
  /-- Of a chain that was asked for before it is written that it was. -/
  | again {keys : List ChainKey} {joints : List String} {lines : List LogLine} {key : ChainKey}
      (h : Chronicle tree above keys joints lines) (hkey : key ∈ keys) :
    Chronicle tree above (keys ++ [key]) joints (lines ++ [.repeated key])
  /-- Of any other it is written which joints are new on its path, and how many joints are on it
  with those that are fixed. -/
  | compiled {keys : List ChainKey} {joints moving all : List String} {lines : List LogLine}
      {key : ChainKey} (h : Chronicle tree above keys joints lines) (hkey : key ∉ keys)
      (hmoving : tree.pathNames above key.1 key.2 false = .ok moving)
      (hall : tree.pathNames above key.1 key.2 true = .ok all) :
    Chronicle tree above (keys ++ [key]) (joints ++ newcomers joints moving)
      (lines ++ assignedLines joints.length (newcomers joints moving) ++
        [.compiled key all.length])

section Chronicle

variable {tree : Tree α} {above : ParentLinks} {keys : List ChainKey} {joints : List String}
  {lines : List LogLine}

/-- **The lines about inputs number the joints.** -/
theorem Chronicle.filterMap_assigned? (h : Chronicle tree above keys joints lines) :
    lines.filterMap LogLine.assigned? = numbered joints := by
  induction h with
  | nil => rfl
  | again _ _ ih =>
    rw [List.filterMap_append, ih]
    exact List.append_nil _
  | compiled _ _ _ _ ih =>
    rw [List.filterMap_append, List.filterMap_append, ih, filterMap_assignedLines]
    exact List.append_nil _

theorem not_mem_assignedLines {start : Nat} {new : List String} {line : LogLine}
    (h : line.assigned? = none) : line ∉ assignedLines start new := by
  intro hmem
  obtain ⟨p, -, rfl⟩ := List.mem_map.1 hmem
  cases h

/-- Only a chain that was asked for is said to be done, -/
theorem Chronicle.mem_of_compiled (h : Chronicle tree above keys joints lines) {key : ChainKey}
    {n : Nat} (hline : .compiled key n ∈ lines) : key ∈ keys := by
  induction h with
  | nil => cases hline
  | again _ _ ih =>
    rcases List.mem_append.1 hline with hline | hline
    · exact List.mem_append_left _ (ih hline)
    · cases List.mem_singleton.1 hline
  | compiled _ _ _ _ ih =>
    rcases List.mem_append.1 hline with hline | hline
    · rcases List.mem_append.1 hline with hline | hline
      · exact List.mem_append_left _ (ih hline)
      · exact absurd hline (not_mem_assignedLines rfl)
    · cases List.mem_singleton.1 hline
      exact List.mem_append_right _ List.mem_cons_self

/-- and no robot. -/
theorem Chronicle.not_mem_finished (h : Chronicle tree above keys joints lines) (robot : String)
    (m n : Nat) : .finished robot m n ∉ lines := by
  induction h with
  | nil => exact List.not_mem_nil
  | again _ _ ih => simp [ih]
  | compiled _ _ _ _ ih =>
    have hnot := fun start new => @not_mem_assignedLines start new (.finished robot m n) rfl
    simp [ih, hnot]

end Chronicle

/-! ### Step by step -/

namespace Robot

/-- **Handing out inputs** gives one to each joint that is new, and writes a line about each. By
induction on the joints: one that is there already changes nothing, and a new one takes the first
number that is free. -/
theorem assignAll_writes (r : Robot α) (names : List String) :
    (r.assignAll names).jointNames = r.jointNames ++ newcomers r.jointNames names ∧
      (r.assignAll names).log =
        r.log ++ assignedLines r.jointNames.length (newcomers r.jointNames names) := by
  induction names generalizing r with
  | nil => exact ⟨(List.append_nil _).symm, (List.append_nil _).symm⟩
  | cons name names ih =>
    rw [assignAll]
    have hmem : r.inputs.contains name = true ↔ name ∈ r.jointNames :=
      Variables.contains_iff_mem_names
    split
    · next hname =>
      rw [newcomers_cons_of_mem (hmem.1 hname)]
      exact ih r
    · next hname =>
      have hnone : r.inputs.find? name = none := by simpa [Variables.contains] using hname
      have hassign : r.inputs.assign r.nextId name =
          (⟨r.nextId, r.inputs.size, name⟩, r.inputs.push r.nextId name, r.nextId + 1) := by
        rw [Variables.assign, hnone]
      have hnames : (r.inputs.push r.nextId name).names = r.jointNames ++ [name] := List.map_append
      have hsize : r.inputs.size = r.jointNames.length := (List.length_map _).symm
      rw [newcomers_cons_of_not_mem (mt hmem.2 hname), assignedLines_cons, hassign, ← hsize]
      obtain ⟨hjoints, hlog⟩ := ih (({ r with
        inputs := r.inputs.push r.nextId name, nextId := r.nextId + 1 } : Robot α).write
          (.assigned name r.inputs.size))
      change _ = (r.inputs.push r.nextId name).names ++
        newcomers (r.inputs.push r.nextId name).names names at hjoints
      change _ = r.log ++ [.assigned name r.inputs.size] ++
        assignedLines (r.inputs.push r.nextId name).names.length
          (newcomers (r.inputs.push r.nextId name).names names) at hlog
      rw [hnames, List.append_assoc] at hjoints
      rw [hnames, List.length_append, List.length_singleton, List.append_assoc, ← hsize] at hlog
      exact ⟨hjoints, hlog⟩

variable {β : Type} {r r' : Robot α} {failure : Failure α}

theorem log_of_attempt {x : Except (Fault α) β} (h : r.attempt x = .error failure) :
    failure.log = r.log := by
  cases x with
  | ok => cases h
  | error fault => rw [← Except.error.inj h]

theorem log_of_build {b : Builder α β} (h : r.build b = .error failure) : failure.log = r.log :=
  log_of_attempt (of_map_eq_error h)

variable [Scalar α]

/-- Constraints are built without a word, -/
theorem log_of_constrain {name : String} (h : r.constrain name = .error failure) :
    failure.log = r.log := by
  rw [constrain] at h
  split at h
  · cases h
  rcases of_bind_eq_error h with h | ⟨j, -, h⟩
  · exact log_of_attempt h
  rcases of_bind_eq_error h with h | ⟨v, -, h⟩
  · exact log_of_attempt h
  rcases of_bind_eq_error h with h | ⟨⟨c, r₁⟩, hbuild, h⟩
  · exact log_of_build h
  obtain ⟨n, -, rfl⟩ := of_build_eq_ok hbuild
  rcases of_bind_eq_error h with h | ⟨⟨b, r₂⟩, -, h⟩
  · have hlog := log_of_build h
    exact hlog
  · cases h

theorem log_of_constrainAll {names : List String} (h : r.constrainAll names = .error failure) :
    failure.log = r.log := by
  induction names generalizing r with
  | nil => cases h
  | cons name names ih =>
    rw [constrainAll] at h
    rcases of_bind_eq_error h with h | ⟨r₁, hfirst, h⟩
    · exact log_of_constrain h
    · rw [ih h]
      rcases constrain_eq_ok hfirst with ⟨-, rfl⟩ | ⟨-, _, _, _, _, _, _, -, -, -, -, rfl⟩ <;> rfl

/-- **A chain that fails** was not there before, and the lines written for it are about inputs:
none at all, or one for each of its joints that was new. -/
theorem addChain_eq_error {key : ChainKey} (h : r.addChain key = .error failure) :
    r.frames.contains key = false ∧
      (failure.log = r.log ∨ ∃ moving, r.pathNames key.1 key.2 false = .ok moving ∧
        failure.log = r.log ++ assignedLines r.jointNames.length (newcomers r.jointNames moving)) := by
  rw [addChain] at h
  rcases hkey : r.frames.contains key with _ | _
  · rw [if_neg (by simp [hkey])] at h
    refine ⟨rfl, ?_⟩
    rcases of_bind_eq_error h with h | ⟨moving, hmoving, h⟩
    · exact Or.inl (log_of_attempt h)
    rcases of_bind_eq_error h with h | ⟨all, -, h⟩
    · exact Or.inl (log_of_attempt h)
    -- From here on the inputs have been handed out.
    refine Or.inr ⟨moving, of_attempt_eq_ok hmoving, ?_⟩
    rw [← (r.assignAll_writes moving).2]
    rcases of_bind_eq_error h with h | ⟨⟨⟨f, frames⟩, r₁⟩, hbuild, h⟩
    · exact log_of_build h
    obtain ⟨n, -, rfl⟩ := of_build_eq_ok hbuild
    rcases of_bind_eq_error h with h | ⟨r₂, -, h⟩
    · have hlog := log_of_constrainAll h
      exact hlog
    · cases h
  · rw [if_pos hkey] at h
    cases h

/-! ### Chain by chain -/

/-- **A robot that has recorded** what was done for the chains asked for. -/
structure Records (tree : Tree α) (root : String) (above : ParentLinks) (keys : List ChainKey)
    (r : Robot α) : Prop where
  aligned : Aligned tree root keys r
  above_eq : r.above = above
  chronicle : Chronicle tree above keys r.jointNames r.log

variable {tree : Tree α} {root : String} {above : ParentLinks} {keys : List ChainKey}

omit [Scalar α] in
theorem records_bare (weights thresholds : Settings α) :
    Records tree root above [] (bare tree root above weights thresholds) :=
  ⟨aligned_bare above weights thresholds, rfl, .nil⟩

/-- **One chain more is recorded.** -/
theorem Records.addChain (hr : Records tree root above keys r) {key : ChainKey}
    (h : r.addChain key = .ok r') : Records tree root above (keys ++ [key]) r' := by
  have haligned := hr.aligned.addChain h
  rcases addChain_eq_ok h with ⟨hkey, rfl⟩ |
    ⟨hkey, moving, all, vs, n, log, f, m, r₂, hmoving, hall, hassign, -, hconstrain, rfl⟩
  · exact ⟨haligned, hr.above_eq, hr.chronicle.again (hr.aligned.contains_iff.1 hkey)⟩
  · have hnew : key ∉ keys := mt hr.aligned.contains_iff.2 (Bool.eq_false_iff.1 hkey)
    obtain ⟨hjoints, hlog⟩ := r.assignAll_writes moving
    rw [hassign] at hjoints hlog
    obtain ⟨cs, hs, k, rfl⟩ := constrainAll_eq_ok hconstrain
    rw [pathNames, hr.aligned.tree_eq, hr.above_eq] at hmoving hall
    refine ⟨haligned, hr.above_eq, ?_⟩
    change Chronicle tree above _ vs.names (log ++ [.compiled key all.length])
    change vs.names = _ at hjoints
    change log = _ at hlog
    rw [hjoints, hlog]
    exact hr.chronicle.compiled hnew hmoving hall

/-- **All chains are recorded that are asked for.** -/
theorem Records.addChains (hr : Records tree root above keys r) {requests : List ChainRequest}
    (h : r.addChains requests = .ok r') :
    ∃ keys', Names (α := α) root requests keys' ∧ Records tree root above (keys ++ keys') r' := by
  induction requests generalizing r keys with
  | nil =>
    obtain rfl := Except.ok.inj h
    refine ⟨[], .nil, ?_⟩
    rw [List.append_nil]
    exact hr
  | cons q requests ih =>
    rw [Robot.addChains] at h
    obtain ⟨key, hkey, h⟩ := exists_of_bind_eq_ok h
    obtain ⟨r₁, hadd, h⟩ := exists_of_bind_eq_ok h
    have hkey := of_attempt_eq_ok hkey
    rw [hr.aligned.root_eq] at hkey
    obtain ⟨keys', hkeys, hr'⟩ := ih (hr.addChain hadd) h
    rw [← List.append_cons] at hr'
    exact ⟨key :: keys', .cons hkey hkeys, hr'⟩

/-- **Chains that fail fail at one of them**, and those before it have been added. -/
theorem addChains_eq_error {requests : List ChainRequest}
    (h : r.addChains requests = .error failure) :
    ∃ before q after r₁, requests = before ++ q :: after ∧ r.addChains before = .ok r₁ ∧
      ((∃ fault : Fault α, q.key r₁.root = .error fault ∧ failure.log = r₁.log) ∨
        ∃ key, (q.key r₁.root : Except (Fault α) ChainKey) = .ok key ∧
          r₁.addChain key = .error failure) := by
  induction requests generalizing r with
  | nil => cases h
  | cons q requests ih =>
    rw [addChains] at h
    rcases hkey : (q.key r.root : Except (Fault α) ChainKey) with fault | key
    · rw [hkey] at h
      obtain rfl : ⟨fault, r.log⟩ = failure := Except.error.inj h
      exact ⟨[], q, requests, r, rfl, rfl, Or.inl ⟨fault, hkey, rfl⟩⟩
    rw [hkey] at h
    rcases hadd : r.addChain key with failure' | r₁
    · change r.addChain key >>= _ = _ at h
      rw [hadd] at h
      obtain rfl := Except.error.inj h
      exact ⟨[], q, requests, r, rfl, rfl, Or.inr ⟨key, hkey, hadd⟩⟩
    · change r.addChain key >>= _ = _ at h
      rw [hadd] at h
      obtain ⟨before, q', after, r₂, rfl, hbefore, hfails⟩ := ih h
      refine ⟨q :: before, q', after, r₂, rfl, ?_, hfails⟩
      rw [addChains, hkey]
      change r.addChain key >>= _ = _
      rw [hadd]
      exact hbefore

/-! ### The whole record -/

section Compile

variable {requests : List ChainRequest} {weights thresholds : Settings α}

/-- **A robot that has been made** has recorded its chains, and their number last. -/
theorem exists_records_of_compile
    (h : compile tree root (.ok requests) weights thresholds = .ok r) :
    ∃ above keys r₀, tree.parentLinks = .ok above ∧ Names (α := α) root requests keys ∧
      Records tree root above keys r₀ ∧
      r = r₀.write (.finished tree.name r₀.chains.length r₀.jointNames.length) := by
  obtain ⟨above, r₀, line, habove, hadd, -⟩ := compile_eq_ok h
  obtain ⟨keys, hkeys, hr⟩ := (records_bare weights thresholds).addChains hadd
  rw [compile_of_addChains habove hadd] at h
  refine ⟨above, keys, r₀, habove, hkeys, hr, ?_⟩
  rw [jointNames, Variables.names, List.length_map]
  exact (Except.ok.inj h).symm

/-- **A robot that could not be made** has recorded the chains before the one that failed, which
make a robot by themselves, and after them no more than inputs for joints of that one. -/
theorem exists_records_of_error (habove : tree.parentLinks = .ok above)
    (h : compile tree root (.ok requests) weights thresholds = .error failure) :
    ∃ before q after keys r₀ new, requests = before ++ q :: after ∧
      compile tree root (.ok before) weights thresholds =
        .ok (r₀.write (.finished tree.name r₀.chains.length r₀.jointNames.length)) ∧
      Names (α := α) root before keys ∧ Records tree root above keys r₀ ∧
      failure.log = r₀.log ++ assignedLines r₀.jointNames.length new ∧
      (new = [] ∨ ∃ key moving, (q.key root : Except (Fault α) ChainKey) = .ok key ∧
        tree.pathNames above key.1 key.2 false = .ok moving ∧
        new = newcomers r₀.jointNames moving) ∧
      ∀ key, (q.key root : Except (Fault α) ChainKey) = .ok key → key ∉ keys := by
  have hfails : (bare tree root above weights thresholds).addChains requests = .error failure := by
    rw [compile, habove] at h
    rcases of_bind_eq_error h with h | ⟨_, -, h⟩
    · exact h
    · cases h
  obtain ⟨before, q, after, r₀, rfl, hbefore, hq⟩ := addChains_eq_error hfails
  obtain ⟨keys, hkeys, hr⟩ := (records_bare weights thresholds).addChains hbefore
  have hok := compile_of_addChains habove hbefore
  rw [List.nil_append] at hr
  rw [hr.aligned.root_eq] at hq
  have hsize : r₀.inputs.size = r₀.jointNames.length := (List.length_map _).symm
  rw [hsize] at hok
  rcases hq with ⟨fault, hkey, hlog⟩ | ⟨key, hkey, hadd⟩
  -- A request that names no chain,
  · refine ⟨before, q, after, keys, r₀, [], rfl, hok, hkeys, hr, ?_, Or.inl rfl, fun key h => ?_⟩
    · rw [hlog]
      exact (List.append_nil _).symm
    · rw [hkey] at h
      cases h
  -- or a chain that fails, which is a new one.
  · obtain ⟨hnew, hlog⟩ := addChain_eq_error hadd
    have hnot : ∀ key', (q.key root : Except (Fault α) ChainKey) = .ok key' → key' ∉ keys := by
      intro key' hkey'
      rw [hkey] at hkey'
      obtain rfl := Except.ok.inj hkey'
      exact mt hr.aligned.contains_iff.2 (Bool.eq_false_iff.1 hnew)
    rcases hlog with hlog | ⟨moving, hmoving, hlog⟩
    · exact ⟨before, q, after, keys, r₀, [], rfl, hok, hkeys, hr,
        hlog.trans (List.append_nil _).symm, Or.inl rfl, hnot⟩
    · rw [pathNames, hr.aligned.tree_eq, hr.above_eq] at hmoving
      exact ⟨before, q, after, keys, r₀, _, rfl, hok, hkeys, hr, hlog,
        Or.inr ⟨key, moving, hkey, hmoving, rfl⟩, hnot⟩

end Compile

/-- **The record of a robot, and of a failure to make one**, for any tree and anything that is
asked for. A robot has recorded its chains, and after them their number and that of its joints;
the lines about inputs give its joints in order. A failure comes before the first chain, and then
nothing has been written, or it comes with one of them. Then the record is that of the chains
before it, which make a robot by themselves, with lines about inputs at most: none, or all for the
joints that are new on the path of the chain. -/
theorem compile_chronicle (tree : Tree α) (root : String)
    (requests : Except (Fault α) (List ChainRequest)) (weights thresholds : Settings α) :
    (∀ r, compile tree root requests weights thresholds = .ok r →
      ∃ above asked keys lines, tree.parentLinks = .ok above ∧ requests = .ok asked ∧
        Names (α := α) root asked keys ∧ Chronicle tree above keys r.jointNames lines ∧
        r.chains = keys.eraseDups ∧
        r.log = lines ++ [.finished tree.name r.chains.length r.jointNames.length] ∧
        r.log.filterMap LogLine.assigned? = numbered r.jointNames) ∧
    ∀ failure, compile tree root requests weights thresholds = .error failure →
      (failure.log = [] ∧
        ((∃ fault, tree.parentLinks = .error fault) ∨ ∃ fault, requests = .error fault)) ∨
      ∃ above before q after r keys lines new, tree.parentLinks = .ok above ∧
        requests = .ok (before ++ q :: after) ∧
        compile tree root (.ok before) weights thresholds = .ok r ∧
        Names (α := α) root before keys ∧ Chronicle tree above keys r.jointNames lines ∧
        r.log = lines ++ [.finished tree.name r.chains.length r.jointNames.length] ∧
        failure.log = lines ++ assignedLines r.jointNames.length new ∧
        (new = [] ∨ ∃ key moving, (q.key root : Except (Fault α) ChainKey) = .ok key ∧
          tree.pathNames above key.1 key.2 false = .ok moving ∧
          new = newcomers r.jointNames moving) ∧
        (∀ key n, (q.key root : Except (Fault α) ChainKey) = .ok key →
          .compiled key n ∉ failure.log) ∧
        ∀ robot m n, .finished robot m n ∉ failure.log := by
  constructor
  · intro r h
    rcases requests with fault | asked
    · rw [compile] at h
      split at h <;> cases h
    obtain ⟨above, keys, r₀, habove, hkeys, hr, rfl⟩ := exists_records_of_compile h
    refine ⟨above, asked, keys, r₀.log, habove, rfl, hkeys, hr.chronicle, hr.aligned.chains_eq,
      rfl, ?_⟩
    rw [write, List.filterMap_append, hr.chronicle.filterMap_assigned?]
    exact List.append_nil _
  · intro failure h
    rcases habove : tree.parentLinks with fault | above
    · rw [compile, habove] at h
      obtain rfl := Except.error.inj h
      exact Or.inl ⟨rfl, Or.inl ⟨fault, rfl⟩⟩
    rcases requests with fault | asked
    · rw [compile, habove] at h
      obtain rfl := Except.error.inj h
      exact Or.inl ⟨rfl, Or.inr ⟨fault, rfl⟩⟩
    obtain ⟨before, q, after, keys, r₀, new, rfl, hok, hkeys, hr, hlog, hnew, hnot⟩ :=
      exists_records_of_error habove h
    refine Or.inr ⟨above, before, q, after, _, keys, r₀.log, new, rfl, rfl, hok, hkeys,
      hr.chronicle, rfl, hlog, hnew, fun key n hkey hmem => ?_, fun robot m n hmem => ?_⟩
    · rw [hlog] at hmem
      rcases List.mem_append.1 hmem with hmem | hmem
      · exact hnot key hkey (hr.chronicle.mem_of_compiled hmem)
      · exact not_mem_assignedLines rfl hmem
    · rw [hlog] at hmem
      rcases List.mem_append.1 hmem with hmem | hmem
      · exact hr.chronicle.not_mem_finished robot m n hmem
      · exact not_mem_assignedLines rfl hmem

/-- **The mast of the cart, asked for twice**, takes one input; and of a ghost that is asked for
after it nothing is said to be done. -/
theorem compile_chronicle_cart :
    (∃ r, compile cartTree "rail" (.ok [.tip "mast", .tip "mast"]) [("slide", .real 1)] [] = .ok r ∧
      r.log.filterMap LogLine.assigned? = [("slide", 0)]) ∧
    ∃ failure, compile cartTree "rail" (.ok [.tip "mast", .tip "ghost"]) [("slide", .real 1)] [] =
        .error failure ∧
      failure.log = [.assigned "slide" 0, .compiled ("rail", "mast") 2] ∧
      ∀ robot m n, .finished robot m n ∉ failure.log := by
  have hnames : (compile cartTree "rail" (.ok [.tip "mast", .tip "mast"])
      [("slide", .real 1)] []).toOption.map (·.jointNames) = some ["slide"] := by
    decide +kernel
  have hlines : (match compile cartTree "rail" (.ok [.tip "mast", .tip "ghost"])
      [("slide", .real 1)] [] with
    | .ok _ => []
    | .error failure => failure.log) = [.assigned "slide" 0, .compiled ("rail", "mast") 2] := by
    decide +kernel
  obtain ⟨r, hok, hnames⟩ := exists_of_map_toOption hnames
  obtain ⟨hmade, -⟩ := compile_chronicle cartTree "rail" (.ok [.tip "mast", .tip "mast"])
    [("slide", .real 1)] []
  obtain ⟨-, hfails⟩ := compile_chronicle cartTree "rail" (.ok [.tip "mast", .tip "ghost"])
    [("slide", .real 1)] []
  refine ⟨⟨r, hok, ?_⟩, ?_⟩
  · obtain ⟨_, _, _, _, -, -, -, -, -, -, hassigned⟩ := hmade r hok
    rw [hassigned, hnames]
    rfl
  · rcases herr : compile cartTree "rail" (.ok [.tip "mast", .tip "ghost"])
        [("slide", .real 1)] [] with failure | r
    · rw [herr] at hlines
      change failure.log = _ at hlines
      refine ⟨failure, rfl, hlines, ?_⟩
      rcases hfails failure herr with ⟨hnil, -⟩ |
        ⟨_, _, _, _, _, _, _, _, -, -, -, -, -, -, -, -, -, hfinished⟩
      · rw [hnil] at hlines
        cases hlines
      · exact hfinished
    · rw [herr] at hlines
      cases hlines

end Robot

end Linkage
