import Linkage.Proofs.Path
import Mathlib.Data.Nat.Find

/-!
# Going up in any tree

A tree may be put together unchecked, and a table may be edited. Then a climb can meet with
anything: links and joints that are not there, links that are missing from the table, circles. What
is true of it all the same is said here. It rests on what one step can do, `Linkage.Tree.cross`.

A climb that notes the names of joints as it crosses them is told by `Linkage.Tree.Walks`, one rule
for each thing that can happen in a step. There is no bound on the steps, so a walk that goes round
in a circle has no outcome. `Linkage.Tree.pathNames` does have a bound, one step for every link, and
notes no names before it is done. Neither makes a difference to a walk that ends.

* Whether fixed joints are noted or not has no bearing on where the walk goes, and what it crosses
  can be sorted out afterwards.
* A walk that ends never stands on a link twice, since the table would lead it on as before. And it
  only ever crosses a joint from a link of the tree (`Linkage.Tree.climb?_length_links`).

So walks that note all joints, walks that leave out the fixed ones, and the search for continuous
joints agree, whatever the tree and the table (`Linkage.Tree.pathNames_alike`). With the table that
belongs to the tree, only two things can go wrong (`Linkage.Tree.parentLinks_outcome`).
-/

namespace Linkage

variable {α : Type}

namespace Tree

variable {tree : Tree α} {above : ParentLinks} {root link : String} {withFixed : Bool}

/-! ### One step -/

/-- **One step up** from a link: the joint above it, and the link that is said to come next. -/
def cross (tree : Tree α) (above : ParentLinks) (link : String) :
    Except (Fault α) (Joint α × String) :=
  match tree.parentJoint link with
  | .error fault => .error fault
  | .ok none => .error (.noParentJoint link)
  | .ok (some joint) =>
    match above.lookup link with
    | none => .error (.noParentLink link)
    | some next => .ok (joint, next)

/-- **The joint above a link**, by what is found under the name of the link. -/
theorem parentJoint_eq (tree : Tree α) (link : String) :
    tree.parentJoint link =
      match tree.links.find? (·.name == link) with
      | none => .error (.unknownLink link)
      | some l =>
        match l.parentJoint with
        | none => .ok none
        | some n => (tree.joint n).map some := by
  rw [parentJoint, Tree.link]
  rcases hl : tree.links.find? (·.name == link) with _ | l
  · rw [hl]
    rfl
  rw [hl]
  change (match l.parentJoint with
    | none => pure none
    | some n => do return some (← tree.joint n)) =
    match l.parentJoint with
    | none => .ok none
    | some n => (tree.joint n).map some
  rcases l.parentJoint with _ | n
  · rfl
  · change (do return some (← tree.joint n)) = (tree.joint n).map some
    rcases tree.joint n with fault | j
    · rfl
    · rfl

/-- A link that is found is one of the tree's. -/
theorem mem_linkNames_of_find? {l : Link} (h : tree.links.find? (·.name == link) = some l) :
    link ∈ tree.linkNames := by
  have hname : l.name = link := by simpa using List.find?_some h
  exact hname ▸ List.mem_map_of_mem (List.mem_of_find?_eq_some h)

/-- A joint that is above a link has been found under its own name, and the link is one of the
tree's. -/
theorem of_parentJoint_eq {j : Joint α} (h : tree.parentJoint link = .ok (some j)) :
    link ∈ tree.linkNames ∧ tree.joint j.name = .ok j := by
  rw [parentJoint_eq] at h
  split at h
  · cases h
  · rename_i l hl
    split at h
    · cases h
    · rename_i n hn
      rcases hj : tree.joint n with fault | k
      · rw [hj] at h
        cases h
      · rw [hj] at h
        obtain rfl := Option.some.inj (Except.ok.inj h)
        exact ⟨mem_linkNames_of_find? hl, by rw [name_of_joint_eq hj, hj]⟩

/-- So has a joint that is crossed. -/
theorem of_cross_eq_ok {j : Joint α} {next : String} (h : tree.cross above link = .ok (j, next)) :
    link ∈ tree.linkNames ∧ tree.joint j.name = .ok j := by
  rw [cross] at h
  split at h
  · cases h
  · cases h
  · rename_i k hk
    split at h
    · cases h
    · obtain ⟨rfl, -⟩ := Prod.mk.inj (Except.ok.inj h)
      exact of_parentJoint_eq hk

/-- A climb that has not come to the root takes a step, and goes on from the next link. -/
theorem climb?_of_ne (n : Nat) (hne : link ≠ root) :
    tree.climb? above root n link =
      match tree.cross above link with
      | .error fault => some (.error fault)
      | .ok (j, next) =>
        match n with
        | 0 => none
        | n + 1 => (tree.climb? above root n next).map (·.map (· ++ [j])) := by
  rw [climb?, if_neg hne, cross]
  rcases tree.parentJoint link with fault | _ | j
  · rfl
  · rfl
  · rcases above.lookup link with _ | next
    · rfl
    · rfl

/-- **What a climb can do**: be over at once, whatever the bound, since it has come to the root or
cannot take a step; or take a step, and go on with one step less. -/
theorem climb?_cases (tree : Tree α) (above : ParentLinks) (root link : String) :
    (∃ r, (∀ n, tree.climb? above root n link = some r) ∧
      (link = root ∧ r = .ok [] ∨
        ∃ fault, link ≠ root ∧ tree.cross above link = .error fault ∧ r = .error fault)) ∨
      ∃ j next, link ≠ root ∧ tree.cross above link = .ok (j, next) ∧
        tree.climb? above root 0 link = none ∧
        ∀ n, tree.climb? above root (n + 1) link =
          (tree.climb? above root n next).map (·.map (· ++ [j])) := by
  by_cases hne : link = root
  · exact Or.inl ⟨.ok [], hne ▸ climb?_self tree above link, Or.inl ⟨hne, rfl⟩⟩
  rcases hcross : tree.cross above link with fault | ⟨j, next⟩
  · refine Or.inl ⟨.error fault, fun n => ?_, Or.inr ⟨fault, hne, rfl, rfl⟩⟩
    rw [climb?_of_ne n hne, hcross]
  · refine Or.inr ⟨j, next, hne, rfl, ?_, fun n => ?_⟩
    · rw [climb?_of_ne 0 hne, hcross]
    · rw [climb?_of_ne (n + 1) hne, hcross]

/-- **Climbs that end, step by step.** What holds on the root and wherever a step fails, and is
handed down over a joint, holds of the outcome of every climb that ends. -/
theorem climb?_induction {motive : String → Except (Fault α) (List (Joint α)) → Prop}
    (arrive : motive root (.ok []))
    (stop : ∀ link fault, link ≠ root → tree.cross above link = .error fault →
      motive link (.error fault))
    (step : ∀ link j next r, link ≠ root → tree.cross above link = .ok (j, next) →
      motive next r → motive link (r.map (· ++ [j])))
    {n : Nat} {r : Except (Fault α) (List (Joint α))}
    (h : tree.climb? above root n link = some r) : motive link r := by
  induction n generalizing link r with
  | zero =>
    rcases climb?_cases tree above root link with
      ⟨r', hr, hover⟩ | ⟨_, _, -, -, hzero, -⟩
    · obtain rfl := Option.some.inj ((hr 0).symm.trans h)
      rcases hover with ⟨rfl, rfl⟩ | ⟨fault, hne, hcross, rfl⟩
      · exact arrive
      · exact stop link fault hne hcross
    · rw [hzero] at h
      cases h
  | succ n ih =>
    rcases climb?_cases tree above root link with
      ⟨r', hr, -⟩ | ⟨j, next, hne, hcross, -, hsucc⟩
    · exact ih ((hr n).trans ((hr (n + 1)).symm.trans h))
    · rw [hsucc] at h
      obtain ⟨r', hr, rfl⟩ := Option.map_eq_some_iff.1 h
      exact step link j next r' hne hcross (ih hr)

/-! ### How far a climb goes -/

/-- With one step more a climb that ended ends the same. -/
theorem climb?_succ {n : Nat} {r : Except (Fault α) (List (Joint α))}
    (h : tree.climb? above root n link = some r) :
    tree.climb? above root (n + 1) link = some r := by
  induction n generalizing link r with
  | zero =>
    rcases climb?_cases tree above root link with ⟨_, hr, -⟩ | ⟨_, _, -, -, hzero, -⟩
    · rw [hr] at h ⊢
      exact h
    · rw [hzero] at h
      cases h
  | succ n ih =>
    rcases climb?_cases tree above root link with ⟨_, hr, -⟩ | ⟨j, next, -, -, -, hsucc⟩
    · rw [hr] at h ⊢
      exact h
    · rw [hsucc] at h ⊢
      obtain ⟨r', hr, rfl⟩ := Option.map_eq_some_iff.1 h
      rw [ih hr, Option.map_some]

theorem climb?_mono {n m : Nat} (hnm : n ≤ m) {r : Except (Fault α) (List (Joint α))}
    (h : tree.climb? above root n link = some r) : tree.climb? above root m link = some r := by
  induction hnm with
  | refl => exact h
  | step _ ih => exact climb?_succ ih

/-- **A climb stands on no link twice.** If it takes so many steps and no fewer, then it takes one
step less from the next link, and so on; by the number of steps that are left the links are told
apart. All are links of the tree, since a step was taken from each. -/
theorem exists_stood {n : Nat} (hsome : (tree.climb? above root n link).isSome)
    (hmin : ∀ m < n, tree.climb? above root m link = none) :
    ∃ stood : List String, stood.length = n ∧ stood.Nodup ∧ stood ⊆ tree.linkNames ∧
      ∀ l ∈ stood, (tree.climb? above root n l).isSome := by
  induction n generalizing link with
  | zero =>
    exact ⟨[], rfl, List.nodup_nil, List.nil_subset _, fun _ hl => absurd hl List.not_mem_nil⟩
  | succ n ih =>
    have hnone := hmin n n.lt_succ_self
    rcases climb?_cases tree above root link with ⟨_, hr, -⟩ | ⟨j, next, -, hcross, -, hsucc⟩
    · rw [hr] at hnone
      cases hnone
    rw [hsucc, Option.isSome_map] at hsome
    obtain ⟨stood, hlen, hnodup, hsub, hstood⟩ := ih hsome fun m hm => by
      have h := hmin (m + 1) (Nat.succ_lt_succ hm)
      rwa [hsucc, Option.map_eq_none_iff] at h
    refine ⟨link :: stood, by rw [List.length_cons, hlen],
      List.nodup_cons.2 ⟨fun hl => ?_, hnodup⟩,
      List.cons_subset.2 ⟨(of_cross_eq_ok hcross).1, hsub⟩,
      List.forall_mem_cons.2 ⟨?_, fun l hl => ?_⟩⟩
    · -- From here the climb does not end in `n` steps, and from the links after it does.
      have h := hstood link hl
      rw [hnone] at h
      cases h
    · rwa [hsucc, Option.isSome_map]
    · obtain ⟨r, hr⟩ := Option.isSome_iff_exists.1 (hstood l hl)
      rw [climb?_succ hr, Option.isSome_some]

/-- **A climb that ends at all ends in as many steps as there are links.** -/
theorem climb?_length_links {n : Nat} {r : Except (Fault α) (List (Joint α))}
    (h : tree.climb? above root n link = some r) :
    tree.climb? above root tree.links.length link = some r := by
  have hends : ∃ m, (tree.climb? above root m link).isSome := ⟨n, by rw [h, Option.isSome_some]⟩
  obtain ⟨stood, hlen, hnodup, hsub, -⟩ := exists_stood (Nat.find_spec hends) fun m hm =>
    Option.not_isSome_iff_eq_none.1 (Nat.find_min hends hm)
  have hle : Nat.find hends ≤ tree.links.length := by
    have := (List.subperm_of_subset hnodup hsub).length_le
    rwa [hlen, linkNames, List.length_map] at this
  obtain ⟨r', hr'⟩ := Option.isSome_iff_exists.1 (Nat.find_spec hends)
  have hleast : Nat.find hends ≤ n := Nat.find_min' hends (by rw [h, Option.isSome_some])
  obtain rfl := Option.some.inj ((climb?_mono hleast hr').symm.trans h)
  exact climb?_mono hle hr'

/-- **So the bound of a path makes no difference** to a climb that ends. -/
theorem path_of_climb? {n : Nat} {tip : String} {r : Except (Fault α) (List (Joint α))}
    (h : tree.climb? above root n tip = some r) : tree.path above root tip = r := by
  rw [path, climb?_length_links h, Option.getD_some]

/-- All that a climb crosses is found in the tree. -/
theorem joint_of_climb? {n : Nat} {js : List (Joint α)}
    (h : tree.climb? above root n link = some (.ok js)) : ∀ j ∈ js, tree.joint j.name = .ok j := by
  refine climb?_induction (motive := fun _ r => ∀ js, r = .ok js → ∀ j ∈ js,
    tree.joint j.name = .ok j) ?_ ?_ ?_ h js rfl
  · intro js hjs
    rw [← Except.ok.inj hjs]
    exact fun j hj => absurd hj List.not_mem_nil
  · intro _ _ _ _ js hjs
    cases hjs
  · intro _ j _ r _ hcross ih js hjs
    rcases r with fault | ks
    · cases hjs
    · rw [← Except.ok.inj hjs, List.forall_mem_append, List.forall_mem_singleton]
      exact ⟨ih ks rfl, (of_cross_eq_ok hcross).2⟩

/-! ### Walks -/

/-- **A walk** from a link up to the root, with the names noted so far, the latest last. Its outcome
is the names noted in all, the latest first, or the fault that stopped it. -/
inductive Walks (tree : Tree α) (above : ParentLinks) (root : String) (withFixed : Bool) :
    (link : String) → (noted : List String) → Except (Fault α) (List String) → Prop
  /-- On the root the walk is over. -/
  | arrive (noted : List String) : Walks tree above root withFixed root noted (.ok noted.reverse)
  /-- A step that cannot be taken stops it. -/
  | stop {link : String} {noted : List String} {fault : Fault α} (hne : link ≠ root)
      (hcross : tree.cross above link = .error fault) :
    Walks tree above root withFixed link noted (.error fault)
  /-- Any other step leads on. The joint that is crossed is noted if it can be moved, and if fixed
  joints are wanted too, in any case. -/
  | step {link next : String} {noted : List String} {j : Joint α}
      {outcome : Except (Fault α) (List String)} (hne : link ≠ root)
      (hcross : tree.cross above link = .ok (j, next))
      (hrest : Walks tree above root withFixed next
        (if withFixed || j.isMoveable then noted ++ [j.name] else noted) outcome) :
    Walks tree above root withFixed link noted outcome

/-- The names of joints, those of fixed ones only if they are wanted. -/
def namesOf (withFixed : Bool) (js : List (Joint α)) : List String :=
  (js.filter fun j => withFixed || j.isMoveable).map (·.name)

theorem namesOf_concat (js : List (Joint α)) (j : Joint α) (noted : List String) :
    namesOf withFixed (js ++ [j]) ++ noted.reverse =
      namesOf withFixed js ++
        (if withFixed || j.isMoveable then noted ++ [j.name] else noted).reverse := by
  rw [namesOf, List.filter_append, List.map_append, ← namesOf, List.append_assoc]
  split
  · rename_i hj
    simp [hj]
  · rename_i hj
    simp [hj]

/-- **A walk that ends comes to what a climb comes to**, with the names of what was crossed added to
what was noted before. -/
theorem Walks.exists_climb? {noted : List String} {outcome : Except (Fault α) (List String)}
    (h : tree.Walks above root withFixed link noted outcome) :
    ∃ n r, tree.climb? above root n link = some r ∧
      outcome = r.map fun js => namesOf withFixed js ++ noted.reverse := by
  induction h with
  | arrive noted => exact ⟨0, .ok [], climb?_self tree above root 0, rfl⟩
  | stop hne hcross => exact ⟨0, _, by rw [climb?_of_ne 0 hne, hcross], rfl⟩
  | @step link next noted j outcome hne hcross _ ih =>
    obtain ⟨n, r, hr, rfl⟩ := ih
    refine ⟨n + 1, r.map (· ++ [j]), ?_, ?_⟩
    · rw [climb?_of_ne (n + 1) hne, hcross]
      exact congrArg (Option.map _) hr
    · rcases r with fault | js
      · rfl
      · exact congrArg Except.ok (namesOf_concat js j noted).symm

/-- **What a climb comes to, a walk does**, whether fixed joints are noted or not. -/
theorem walks_of_climb? {n : Nat} {r : Except (Fault α) (List (Joint α))}
    (h : tree.climb? above root n link = some r) (withFixed : Bool) (noted : List String) :
    tree.Walks above root withFixed link noted
      (r.map fun js => namesOf withFixed js ++ noted.reverse) := by
  refine climb?_induction (motive := fun link r => ∀ noted, tree.Walks above root withFixed link
    noted (r.map fun js => namesOf withFixed js ++ noted.reverse)) ?_ ?_ ?_ h noted
  · exact fun noted => .arrive noted
  · exact fun _ _ hne hcross _ => .stop hne hcross
  · intro link j next r hne hcross ih noted
    refine .step hne hcross ?_
    have hrest := ih (if withFixed || j.isMoveable then noted ++ [j.name] else noted)
    rcases r with fault | js
    · exact hrest
    · rw [Except.map, Except.map, namesOf_concat]
      exact hrest

/-- **A walk that ends comes to the names that are found for its chain.** -/
theorem Walks.outcome_eq {tip : String} {outcome : Except (Fault α) (List String)}
    (h : tree.Walks above root withFixed tip [] outcome) :
    tree.pathNames above root tip withFixed = outcome := by
  obtain ⟨n, r, hr, rfl⟩ := h.exists_climb?
  rw [pathNames, path_of_climb? hr]
  simp only [List.reverse_nil, List.append_nil]
  rfl

/-! ### Names sorted out afterwards -/

/-- The type of the joint of a name, if there is one. -/
def typeOf? (tree : Tree α) (name : String) : Option JointType :=
  (tree.joint name).toOption.map (·.type)

theorem typeOf?_of_joint_eq {name : String} {j : Joint α} (h : tree.joint name = .ok j) :
    tree.typeOf? name = some j.type := by
  rw [typeOf?, h]
  rfl

/-- The names of the joints that can be moved are those that are not the names of fixed ones. -/
theorem namesOf_false_eq {js : List (Joint α)} (hfound : ∀ j ∈ js, tree.joint j.name = .ok j) :
    namesOf false js =
      (namesOf true js).filter fun name => decide (tree.typeOf? name ≠ some .fixed) := by
  simp only [namesOf, Bool.true_or, Bool.false_or, List.filter_true, List.filter_map]
  refine congrArg (List.map _) (List.filter_congr fun j hj => ?_)
  rw [Function.comp_apply, typeOf?_of_joint_eq (hfound j hj), Joint.isMoveable,
    JointType.isMoveable]
  rcases j.type <;> rfl

/-- Where every member passes a test or not, the members that pass are left. -/
theorem filterM_eq_ok {ε β : Type} {f : β → Except ε Bool} {p : β → Bool} {xs : List β}
    (h : ∀ x ∈ xs, f x = .ok (p x)) : xs.filterM f = .ok (xs.filter p) := by
  have haux : ∀ acc, List.filterAuxM f xs acc = .ok ((xs.filter p).reverse ++ acc) := by
    induction xs with
    | nil => exact fun acc => rfl
    | cons x xs ih =>
      intro acc
      rw [List.forall_mem_cons] at h
      rw [List.filterAuxM, h.1]
      change List.filterAuxM f xs (cond (p x) (x :: acc) acc) = _
      rw [ih h.2, List.filter_cons]
      cases p x <;> simp
  rw [List.filterM, haux, List.append_nil]
  exact congrArg Except.ok (List.reverse_reverse _)

/-- **The continuous joints of a chain** are those among its joints. -/
theorem continuousNames_of_path {tip : String} {js : List (Joint α)}
    (h : tree.path above root tip = .ok js) (hfound : ∀ j ∈ js, tree.joint j.name = .ok j) :
    tree.continuousNames above root tip =
      .ok ((namesOf true js).filter fun name =>
        decide (tree.typeOf? name = some .continuous)).eraseDups := by
  have htest : ∀ name ∈ namesOf false js,
      (tree.joint name >>= fun j => pure (j.type == .continuous)) =
        .ok (decide (tree.typeOf? name = some .continuous)) := by
    intro name hname
    obtain ⟨j, hj, rfl⟩ := List.mem_map.1 hname
    have hj := hfound j (List.mem_filter.1 hj).1
    rw [typeOf?_of_joint_eq hj, hj]
    refine congrArg Except.ok (Bool.eq_iff_iff.2 ?_)
    rw [beq_iff_eq, decide_eq_true_iff, Option.some.injEq]
  have hboth : (namesOf false js).filter (fun name =>
      decide (tree.typeOf? name = some .continuous)) =
      (namesOf true js).filter fun name => decide (tree.typeOf? name = some .continuous) := by
    rw [namesOf_false_eq hfound, List.filter_filter]
    refine List.filter_congr fun name _ => ?_
    rw [Bool.and_eq_left_iff_imp]
    intro hname
    rw [decide_eq_true_iff] at hname ⊢
    rw [hname]
    simp
  rw [continuousNames, pathNames, h]
  change ((namesOf false js).filterM (fun name =>
    (tree.joint name >>= fun j => pure (j.type == .continuous) : Except (Fault α) Bool)) >>=
      fun names => pure names.eraseDups) = _
  rw [filterM_eq_ok htest, hboth]
  rfl

/-- **Walks that agree.** Whatever the tree and the table, a walk that ends comes to the names that
are found for its chain, with fixed joints or without. Either all searches for names are stopped by
the same fault, or they succeed. Then the names without those of fixed joints are what is left of
all names, in order, and the names of continuous joints are those among all names, each once. -/
theorem pathNames_alike (tree : Tree α) (above : ParentLinks) (root tip : String) {b : Bool}
    {outcome : Except (Fault α) (List String)} (h : tree.Walks above root b tip [] outcome) :
    (∀ withFixed, tree.Walks above root withFixed tip []
      (tree.pathNames above root tip withFixed)) ∧
    ((∃ fault, tree.pathNames above root tip true = .error fault ∧
        tree.pathNames above root tip false = .error fault ∧
        tree.continuousNames above root tip = .error fault) ∨
      ∃ all continuous, tree.pathNames above root tip true = .ok all ∧
        tree.pathNames above root tip false =
          .ok (all.filter fun name => decide (tree.typeOf? name ≠ some .fixed)) ∧
        (∀ name ∈ all, ∃ j, tree.joint name = .ok j ∧ j.name = name) ∧
        tree.continuousNames above root tip = .ok continuous ∧ continuous.Nodup ∧
        ∀ name, name ∈ continuous ↔ name ∈ all ∧ tree.typeOf? name = some .continuous) := by
  obtain ⟨n, r, hr, -⟩ := h.exists_climb?
  refine ⟨fun withFixed => ?_, ?_⟩
  · have hwalk := walks_of_climb? hr withFixed []
    exact hwalk.outcome_eq ▸ hwalk
  have hpath : tree.path above root tip = r := path_of_climb? hr
  rcases r with fault | js
  · refine Or.inl ⟨fault, ?_, ?_, ?_⟩
    · rw [pathNames, hpath]
      rfl
    · rw [pathNames, hpath]
      rfl
    · rw [continuousNames, pathNames, hpath]
      rfl
  · have hfound := joint_of_climb? hr
    refine Or.inr ⟨namesOf true js, _, ?_, ?_, fun name hname => ?_,
      continuousNames_of_path hpath hfound, nodup_eraseDups _, fun name => ?_⟩
    · rw [pathNames, hpath]
      rfl
    · rw [pathNames, hpath, ← namesOf_false_eq hfound]
      rfl
    · obtain ⟨j, hj, rfl⟩ := List.mem_map.1 hname
      exact ⟨j, hfound j (List.mem_filter.1 hj).1, rfl⟩
    · rw [List.mem_eraseDups, List.mem_filter, decide_eq_true_iff]

/-- A wheel whose rim and hub both claim to hang from its axle, and a tire on the rim. -/
def wheelTree : Tree Float :=
  ⟨"wheel", "fork", [⟨"rim", some "axle"⟩, ⟨"hub", some "axle"⟩, ⟨"tire", some "bead"⟩],
    [⟨"axle", .continuous, "fork", "rim", .rest, Joint.defaultAxis, none⟩,
      .weld "bead" "rim" "tire"]⟩

/-- A table in which the rim hangs from the hub. -/
def wheelTable : ParentLinks := [("tire", "rim"), ("rim", "hub"), ("hub", "fork")]

/-- **Up from the tire** one crosses the axle twice, and finds one continuous joint. -/
theorem pathNames_alike_wheel :
    wheelTree.Walks wheelTable "fork" true "tire" [] (.ok ["axle", "axle", "bead"]) ∧
    wheelTree.pathNames wheelTable "fork" "tire" false = .ok ["axle", "axle"] ∧
    ∃ continuous, wheelTree.continuousNames wheelTable "fork" "tire" = .ok continuous ∧
      continuous.Nodup ∧ ∀ name, name ∈ continuous ↔ name = "axle" := by
  have hwalk : wheelTree.Walks wheelTable "fork" true "tire" [] (.ok ["axle", "axle", "bead"]) :=
    .step (by decide) rfl (.step (by decide) rfl (.step (by decide) rfl (.arrive _)))
  have hnames := hwalk.outcome_eq
  obtain ⟨-, ⟨fault, hfault, -⟩ | ⟨all, continuous, hall, hmoving, -, hcontinuous, hnodup, hmem⟩⟩ :=
    pathNames_alike _ _ _ _ hwalk
  · cases hnames.symm.trans hfault
  · obtain rfl := Except.ok.inj (hnames.symm.trans hall)
    refine ⟨hwalk, hmoving.trans rfl, continuous, hcontinuous, hnodup, fun name => ?_⟩
    rw [hmem]
    constructor
    · rintro ⟨hname, htype⟩
      have hbead : wheelTree.typeOf? "bead" ≠ some .continuous := by decide
      simp only [List.mem_cons, List.not_mem_nil, or_false] at hname
      rcases hname with rfl | rfl | rfl
      · rfl
      · rfl
      · exact absurd htype hbead
    · rintro rfl
      exact ⟨by decide, rfl⟩

/-! ### The table that belongs to the tree -/

/-- **The table of some links** has an entry for the first of them if that names a joint, which is
then found, and after it the entries of the others. -/
theorem parentLinksOf_cons_eq_ok {l : Link} {ls : List Link}
    (h : tree.parentLinksOf (l :: ls) = .ok above) :
    (l.parentJoint = none ∧ tree.parentLinksOf ls = .ok above) ∨
      ∃ n j entries, l.parentJoint = some n ∧ tree.joint n = .ok j ∧
        tree.parentLinksOf ls = .ok entries ∧ above = (l.name, j.parent) :: entries := by
  rw [parentLinksOf] at h
  split at h
  · rename_i hn
    exact Or.inl ⟨hn, h⟩
  · rename_i n hn
    rcases hj : tree.joint n with fault | j
    · rw [hj] at h
      cases h
    rcases hrest : tree.parentLinksOf ls with fault | entries
    · rw [hj, hrest] at h
      cases h
    rw [hj, hrest] at h
    exact Or.inr ⟨n, j, entries, hn, hj, rfl, (Except.ok.inj h).symm⟩

/-- Under a link that names a joint it has the parent of that joint. -/
theorem lookup_of_parentLinksOf {ls : List Link} (h : tree.parentLinksOf ls = .ok above) {l : Link}
    (hl : ls.find? (·.name == link) = some l) {n : String} (hn : l.parentJoint = some n) :
    ∃ j, tree.joint n = .ok j ∧ above.lookup link = some j.parent := by
  induction ls generalizing above with
  | nil => cases hl
  | cons k ls ih =>
    rcases hname : k.name == link with _ | _
    · rw [List.find?_cons, hname] at hl
      rcases parentLinksOf_cons_eq_ok h with ⟨-, hrest⟩ | ⟨_, _, entries, -, -, hrest, rfl⟩
      · exact ih hrest hl
      · obtain ⟨j, hj, hlookup⟩ := ih hrest hl
        rw [BEq.comm] at hname
        exact ⟨j, hj, by rw [List.lookup_cons, hname, hlookup]⟩
    · rw [List.find?_cons, hname] at hl
      obtain rfl := Option.some.inj hl
      rw [beq_iff_eq] at hname
      rcases parentLinksOf_cons_eq_ok h with ⟨hnone, -⟩ | ⟨_, j, _, hm, hj, -, rfl⟩
      · exact absurd (hnone.symm.trans hn) (by simp)
      · obtain rfl := Option.some.inj (hm.symm.trans hn)
        exact ⟨j, hj, by rw [hname, List.lookup_cons_self]⟩

/-- **A step by the table of the tree** fails in two ways: there is no link to step off, or no joint
above it. -/
theorem of_cross_eq_error (habove : tree.parentLinks = .ok above) {fault : Fault α}
    (h : tree.cross above link = .error fault) :
    (link ∉ tree.linkNames ∧ fault = .unknownLink link) ∨
      ((∃ l, tree.link link = .ok l ∧ l.parentJoint = none) ∧ fault = .noParentJoint link) := by
  rw [cross, parentJoint_eq] at h
  rcases hl : tree.links.find? (·.name == link) with _ | l
  · rw [hl] at h
    refine Or.inl ⟨fun hmem => ?_, (Except.error.inj h).symm⟩
    obtain ⟨l, hmem, hname⟩ := List.mem_map.1 hmem
    exact List.find?_eq_none.1 hl l hmem (beq_iff_eq.2 hname)
  · have hlink : tree.link link = .ok l := by rw [Tree.link, hl]
    rcases hn : l.parentJoint with _ | n
    · simp only [hl, hn] at h
      exact Or.inr ⟨⟨l, hlink, hn⟩, (Except.error.inj h).symm⟩
    · -- The joint is found, and so is what is above it.
      obtain ⟨j, hj, hlookup⟩ := lookup_of_parentLinksOf habove hl hn
      simp only [hl, hn, hj, Except.map, hlookup] at h
      cases h

/-- A walk is stopped by a step that fails. -/
theorem Walks.exists_cross_eq_error {noted : List String} {fault : Fault α}
    (h : tree.Walks above root withFixed link noted (.error fault)) :
    ∃ l, tree.cross above l = .error fault := by
  generalize houtcome : (.error fault : Except (Fault α) (List String)) = outcome at h
  induction h with
  | arrive => cases houtcome
  | stop _ hcross =>
    obtain rfl := Except.error.inj houtcome
    exact ⟨_, hcross⟩
  | step _ _ _ ih => exact ih houtcome

/-- **A tree that is a tree** has in its table all links but the root, in order. -/
theorem IsRooted.map_fst_entries (h : tree.IsRooted) {ls : List Link} (hls : ls ⊆ tree.links) :
    (ls.filterMap fun l =>
      (jointAbove? tree.joints l.name).map fun j => (l.name, j.parent)).map Prod.fst =
      (ls.map (·.name)).filter (· ≠ tree.root) := by
  induction ls with
  | nil => rfl
  | cons l ls ih =>
    obtain ⟨hl, hls⟩ := List.cons_subset.1 hls
    have htop := h.jointAbove?_eq_none_iff (List.mem_map_of_mem hl : l.name ∈ tree.linkNames)
    rw [List.filterMap_cons, List.map_cons, List.filter_cons, ← ih hls]
    rcases hj : jointAbove? tree.joints l.name with _ | j
    · rw [if_neg (by simpa using htop.1 hj)]
      rfl
    · rw [if_pos (by simpa [hj] using htop)]
      rfl

/-- Under a link it has the parent of the joint whose child the link is. -/
theorem IsRooted.lookup_entries_iff (h : tree.IsRooted) {parent : String} :
    (tree.links.filterMap fun l =>
      (jointAbove? tree.joints l.name).map fun j => (l.name, j.parent)).lookup link =
        some parent ↔
      ∃ j ∈ tree.joints, j.child = link ∧ j.parent = parent := by
  constructor
  · intro hlookup
    obtain ⟨before, after, hsplit, -⟩ := List.lookup_eq_some_iff.1 hlookup
    have hmem : (link, parent) ∈ tree.links.filterMap fun l =>
        (jointAbove? tree.joints l.name).map fun j => (l.name, j.parent) := by
      rw [hsplit]
      simp
    obtain ⟨l, -, hentry⟩ := List.mem_filterMap.1 hmem
    obtain ⟨j, hj, hpair⟩ := Option.map_eq_some_iff.1 hentry
    obtain ⟨rfl, rfl⟩ := Prod.mk.inj hpair
    obtain ⟨hj, hchild⟩ := mem_of_jointAbove? hj
    exact ⟨j, hj, hchild, rfl⟩
  · rintro ⟨j, hj, rfl, rfl⟩
    have habove := (jointAbove?_eq_some h.children).2 ⟨hj, rfl⟩
    exact lookup_entries habove (h.ends j hj).2

/-- **What the table of a tree is, and what can go wrong with it.** Where a tree has a table, a walk
by that table which ends does so well, or at a link that the tree lacks, or at one that names no
joint. A tree made from joints has a table. It has one entry for every link but the root, and that
is the parent of the one joint whose child the link is. -/
theorem parentLinks_outcome :
    (∀ (tree : Tree α) above, tree.parentLinks = .ok above →
      ∀ root tip withFixed outcome, tree.Walks above root withFixed tip [] outcome →
        (∃ names, tree.pathNames above root tip withFixed = .ok names) ∨
        (∃ link, link ∉ tree.linkNames ∧
          tree.pathNames above root tip withFixed = .error (.unknownLink link)) ∨
        ∃ link, (∃ l, tree.link link = .ok l ∧ l.parentJoint = none) ∧
          tree.pathNames above root tip withFixed = .error (.noParentJoint link)) ∧
    ∀ name joints extra (tree : Tree α), ofJoints name joints extra = .ok tree →
      ∃ above, tree.parentLinks = .ok above ∧
        above.map Prod.fst = tree.linkNames.filter (· ≠ tree.root) ∧
        (above.map Prod.fst).Nodup ∧
        ∀ link parent, above.lookup link = some parent ↔
          ∃ j ∈ tree.joints, j.child = link ∧ j.parent = parent ∧
            ∀ k ∈ tree.joints, k.child = link → k = j := by
  refine ⟨fun tree above habove root tip withFixed outcome h => ?_,
    fun name joints extra tree htree => ?_⟩
  · rw [h.outcome_eq]
    rcases outcome with fault | names
    · obtain ⟨link, hcross⟩ := h.exists_cross_eq_error
      rcases of_cross_eq_error habove hcross with ⟨hlink, rfl⟩ | ⟨hlink, rfl⟩
      · exact Or.inr (Or.inl ⟨link, hlink, rfl⟩)
      · exact Or.inr (Or.inr ⟨link, hlink, rfl⟩)
    · exact Or.inl ⟨names, rfl⟩
  · have hrooted := isRooted_of_ofJoints htree
    have hkeys := hrooted.map_fst_entries (List.Subset.refl tree.links)
    refine ⟨_, hrooted.parentLinksOf_eq (List.Subset.refl tree.links), hkeys, ?_,
      fun link parent => hrooted.lookup_entries_iff.trans ⟨?_, ?_⟩⟩
    · rw [hkeys]
      exact hrooted.links.filter _
    · rintro ⟨j, hj, hchild, hparent⟩
      exact ⟨j, hj, hchild, hparent, fun k hk hkl =>
        eq_of_child_eq hrooted.children hk hj (hkl.trans hchild.symm)⟩
    · rintro ⟨j, hj, hchild, hparent, -⟩
      exact ⟨j, hj, hchild, hparent⟩

/-- An arm without its post. -/
def lostTree : Tree Float := ⟨"arm", "base", [⟨"hand", some "wrist"⟩], [.weld "wrist" "arm" "hand"]⟩

/-- **Up from a hand** whose arm is lost one comes to a link that is not there. In the table of the
whole arm the hand hangs from the arm. -/
theorem parentLinks_outcome_hand :
    (∃ above, lostTree.parentLinks = .ok above ∧
      lostTree.Walks above "base" true "hand" [] (.error (.unknownLink "arm")) ∧
      ∃ link, link ∉ lostTree.linkNames ∧
        lostTree.pathNames above "base" "hand" true = .error (.unknownLink link)) ∧
    ofJoints "arm" armJoints ["head"] = .ok armTree ∧
    ∃ above, armTree.parentLinks = .ok above ∧
      above.map Prod.fst = ["head", "post", "arm", "hand"] ∧ above.lookup "hand" = some "arm" := by
  obtain ⟨hfaults, htable⟩ := parentLinks_outcome (α := Float)
  have harm : ofJoints "arm" armJoints ["head"] = .ok armTree := by cbv
  refine ⟨⟨[("hand", "arm")], rfl, ?_⟩, harm, ?_⟩
  · have hwalk : lostTree.Walks [("hand", "arm")] "base" true "hand" []
        (.error (.unknownLink "arm")) :=
      .step (by decide) rfl (.stop (by decide) rfl)
    refine ⟨hwalk, ?_⟩
    rcases hfaults lostTree _ rfl _ _ _ _ hwalk with ⟨names, hnames⟩ | hunknown | ⟨link, -, hlast⟩
    · cases hnames.symm.trans hwalk.outcome_eq
    · exact hunknown
    · cases hlast.symm.trans hwalk.outcome_eq
  · obtain ⟨above, habove, hkeys, -, hlookup⟩ := htable _ _ _ _ harm
    refine ⟨above, habove, hkeys.trans (by decide +kernel), (hlookup _ _).2 ?_⟩
    refine ⟨.weld "wrist" "arm" "hand", ?_, rfl, rfl, ?_⟩
    · simp [armTree, treeOf, armJoints]
    · simp [armTree, treeOf, armJoints, Joint.weld]

end Tree

end Linkage
