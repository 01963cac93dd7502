import Linkage.Proofs.Ascent
import Mathlib

/-!
# Which joints describe a tree

`Linkage.Tree.ofJoints` looks for one defect after another. What it comes to in the end
is said here without any order: the joints must be *consistent* (`Linkage.Consistent`) –
a name for every joint, a place of its own for every link below one, and a single link
that is below none – and that link, the root, must reach all others.

* `Linkage.Tree.ofJoints_of_consistent` – of consistent joints, only a link that is out of
  reach can be reported;
* `Linkage.consistent_or_fault` – of others, something is reported;
* `Linkage.Tree.ofJoints_outcome` – the two together, with the links out of reach
  described by the way up from them.

The test goes down from the root, breadth first, whereas chains are found by going up. It
is `Linkage.reaches_iff_rise` that makes the two agree, and it holds because consistent
joints hang no link twice.
-/

namespace Linkage

variable {α : Type}

/-! ### The links of a description -/

/-- **A link of a description**: one that is given, or that a joint mentions. -/
def Mentions (joints : List (Joint α)) (extra : List String) (link : String) : Prop :=
  link ∈ extra ∨ ∃ j ∈ joints, link = j.parent ∨ link = j.child

/-- A link below no joint. -/
def IsTop (joints : List (Joint α)) (link : String) : Prop := ∀ j ∈ joints, j.child ≠ link

/-- The links that joints mention, parent before child, joint by joint. -/
def endsOf (joints : List (Joint α)) : List String := joints.flatMap fun j => [j.parent, j.child]

variable {joints : List (Joint α)} {extra : List String}

@[simp]
theorem mem_endsOf {link : String} :
    link ∈ endsOf joints ↔ ∃ j ∈ joints, link = j.parent ∨ link = j.child := by
  simp [endsOf]

@[simp]
theorem mem_linksOf {link : String} : link ∈ linksOf joints extra ↔ Mentions joints extra link := by
  rw [linksOf, List.mem_eraseDups, List.mem_append, ← endsOf, mem_endsOf, Mentions]

theorem nodup_eraseDups {β : Type} [BEq β] [LawfulBEq β] (xs : List β) : xs.eraseDups.Nodup := by
  induction hn : xs.length using Nat.strongRecOn generalizing xs with
  | ind n ih =>
    cases xs with
    | nil => exact List.nodup_nil
    | cons x xs =>
      rw [List.eraseDups_cons, List.nodup_cons]
      refine ⟨by simp, ih _ ?_ _ rfl⟩
      rw [← hn, List.length_cons]
      exact Nat.lt_succ_of_le (List.length_filter_le _ _)

/-- A list without repetitions is left as it is. -/
theorem eraseDups_eq_self {β : Type} [BEq β] [LawfulBEq β] {xs : List β} (h : xs.Nodup) :
    xs.eraseDups = xs := by
  induction xs with
  | nil => rfl
  | cons x xs ih =>
    rw [List.nodup_cons] at h
    have hkeep : (xs.filter fun y => !y == x) = xs := by
      rw [List.filter_eq_self]
      intro y hy
      have hne : y ≠ x := by
        rintro rfl
        exact h.1 hy
      simpa using hne
    rw [List.eraseDups_cons, hkeep, ih h.2]

theorem nodup_linksOf (joints : List (Joint α)) (extra : List String) :
    (linksOf joints extra).Nodup := nodup_eraseDups _

/-- A link that stands at an end of a joint is mentioned. -/
theorem mentions_ends {j : Joint α} (hj : j ∈ joints) :
    Mentions joints extra j.parent ∧ Mentions joints extra j.child :=
  ⟨Or.inr ⟨j, hj, Or.inl rfl⟩, Or.inr ⟨j, hj, Or.inr rfl⟩⟩

theorem jointAbove?_isNone_iff {link : String} :
    (jointAbove? joints link).isNone = true ↔ IsTop joints link := by
  rw [Option.isNone_iff_eq_none, jointAbove?_eq_none, IsTop]

/-! ### Joints one by one -/

/-- What a joint shares with none before it may be added to what those have. -/
theorem nodup_map_concat (f : Joint α → String) {before : List (Joint α)} {j : Joint α} :
    ((before ++ [j]).map f).Nodup ↔ (before.map f).Nodup ∧ before.any (f · == f j) = false := by
  rw [List.map_append, List.map_singleton, List.nodup_append_comm, List.singleton_append,
    List.nodup_cons, and_comm, List.any_eq_false]
  simp only [List.mem_map, not_exists, not_and, beq_iff_eq]

/-- **No defect is found in joints exactly when** all have names, no two the same one, and
no two the same child. -/
theorem firstDefect_eq_none_iff {before js : List (Joint α)}
    (hn : (before.map (·.name)).Nodup) (hc : (before.map (·.child)).Nodup) :
    firstDefect before js = none ↔
      (∀ j ∈ js, j.name ≠ "") ∧ ((before ++ js).map (·.name)).Nodup ∧
        ((before ++ js).map (·.child)).Nodup := by
  induction js generalizing before with
  | nil => simp [firstDefect, hn, hc]
  | cons j js ih =>
    rw [firstDefect, List.append_cons before j js]
    constructor
    · intro h
      split_ifs at h with hname htwice hsecond
      have hn' := (nodup_map_concat (·.name)).2 ⟨hn, by simpa using htwice⟩
      have hc' := (nodup_map_concat (·.child)).2 ⟨hc, by simpa using hsecond⟩
      obtain ⟨hnames, hrest⟩ := (ih hn' hc').1 h
      exact ⟨List.forall_mem_cons.2 ⟨hname, hnames⟩, hrest⟩
    · rintro ⟨hnames, hns, hcs⟩
      rw [List.forall_mem_cons] at hnames
      -- What is distinct among all joints is so among those up to `j`.
      have hn' : ((before ++ [j]).map (·.name)).Nodup :=
        ((List.sublist_append_left _ js).map _).nodup hns
      have hc' : ((before ++ [j]).map (·.child)).Nodup :=
        ((List.sublist_append_left _ js).map _).nodup hcs
      rw [if_neg hnames.1, if_neg (by simp [((nodup_map_concat (·.name)).1 hn').2]),
        if_neg (by simp [((nodup_map_concat (·.child)).1 hc').2])]
      exact (ih hn' hc').2 ⟨hnames.2, hns, hcs⟩

/-- A defect of a joint makes the tree inconsistent. -/
theorem kind_of_firstDefect {before js : List (Joint α)} {fault : Fault α}
    (h : firstDefect before js = some fault) : fault.kind = .integrity := by
  induction js generalizing before with
  | nil => exact absurd h (by simp [firstDefect])
  | cons j js ih =>
    rw [firstDefect] at h
    split_ifs at h
    · rw [← Option.some.inj h, Fault.kind]
    · rw [← Option.some.inj h, Fault.kind]
    · rw [← Option.some.inj h, Fault.kind]
    · exact ih h

/-! ### Consistent joints -/

/-- **What is asked of joints before any going down**: that they have names of their own
and children of their own, and that `root` is the only link below none. -/
structure Consistent (joints : List (Joint α)) (extra : List String) (root : String) : Prop where
  /-- Every joint has a name. -/
  named : ∀ j ∈ joints, j.name ≠ ""
  /-- No two joints have the same name. -/
  names : (joints.map (·.name)).Nodup
  /-- No two joints have the same child. -/
  children : (joints.map (·.child)).Nodup
  /-- Of all links, the root and no other is below no joint. -/
  top : ∀ link, Mentions joints extra link ∧ IsTop joints link ↔ link = root

namespace Consistent

variable {root : String}

theorem firstDefect_eq_none (h : Consistent joints extra root) : firstDefect [] joints = none := by
  refine (firstDefect_eq_none_iff ?_ ?_).2 ⟨h.named, h.names, h.children⟩
  · exact List.nodup_nil
  · exact List.nodup_nil

theorem mentions_root (h : Consistent joints extra root) : Mentions joints extra root :=
  ((h.top root).2 rfl).1

theorem isTop_root (h : Consistent joints extra root) : IsTop joints root := ((h.top root).2 rfl).2

theorem isTop_iff (h : Consistent joints extra root) {link : String}
    (hlink : Mentions joints extra link) : IsTop joints link ↔ link = root :=
  ⟨fun ht => (h.top link).1 ⟨hlink, ht⟩, fun he => he ▸ h.isTop_root⟩

/-- **The links out of reach** are those on a circle, or hanging below one. -/
theorem not_reaches_iff_belowCycle (h : Consistent joints extra root) {link : String}
    (hlink : Mentions joints extra link) : ¬Reaches joints root link ↔ BelowCycle joints link :=
  Linkage.not_reaches_iff_belowCycle h.children
    (fun _ hj => mem_linksOf.2 (mentions_ends hj).1)
    (fun _ hl => h.isTop_iff (mem_linksOf.1 hl))
    (mem_linksOf.2 h.mentions_root) (mem_linksOf.2 hlink)

end Consistent

/-! ### The tree, or what is reported -/

/-- The links that going down from a link misses, in order. -/
def missedFrom (joints : List (Joint α)) (extra : List String) (root : String) : List String :=
  (linksOf joints extra).filter fun link => !(reachedFrom joints [] [root]).contains link

/-- The tree of consistent joints with all links within reach. -/
def treeOf (name : String) (joints : List (Joint α)) (extra : List String) (root : String) :
    Tree α where
  name := name
  root := root
  links := (linksOf joints extra).map fun link => ⟨link, (jointAbove? joints link).map (·.name)⟩
  joints := joints

theorem mem_missedFrom {root link : String} :
    link ∈ missedFrom joints extra root ↔
      Mentions joints extra link ∧ ¬Reaches joints root link := by
  rw [missedFrom, List.mem_filter, mem_linksOf, Bool.not_eq_true', ← Bool.not_eq_true,
    List.contains_iff_mem, mem_reachedFrom_iff]

theorem missedFrom_eq_nil_iff {root : String} :
    missedFrom joints extra root = [] ↔
      ∀ link, Mentions joints extra link → Reaches joints root link := by
  simp only [List.eq_nil_iff_forall_not_mem, mem_missedFrom, not_and, not_not]

/-- **The links that are missed are those from which the way up never comes to the
root.** -/
theorem missedFrom_eq_filter_rise (hc : (joints.map (·.child)).Nodup) (root : String) :
    missedFrom joints extra root =
      open Classical in
      (linksOf joints extra).filter fun link => ∀ n, rise joints n link ≠ some root := by
  classical
  refine List.filter_congr fun link _ => ?_
  rw [Bool.eq_iff_iff, Bool.not_eq_true', ← Bool.not_eq_true, List.contains_iff_mem,
    mem_reachedFrom_iff, reaches_iff_rise hc, decide_eq_true_eq, not_exists]

/-- The links below no joint are one alone exactly when that one is the only such link. -/
theorem filter_isNone_eq_singleton_iff {root : String} :
    ((linksOf joints extra).filter fun link => (jointAbove? joints link).isNone) = [root] ↔
      ∀ link, Mentions joints extra link ∧ IsTop joints link ↔ link = root := by
  have hmem : ∀ link, link ∈ ((linksOf joints extra).filter fun link =>
      (jointAbove? joints link).isNone) ↔ Mentions joints extra link ∧ IsTop joints link := by
    intro link
    rw [List.mem_filter, mem_linksOf, jointAbove?_isNone_iff]
  constructor
  · intro h link
    rw [← hmem, h, List.mem_singleton]
  · intro h
    have hd := (nodup_linksOf joints extra).filter fun link => (jointAbove? joints link).isNone
    refine List.perm_singleton.1 ((List.perm_ext_iff_of_nodup hd (List.nodup_singleton root)).2 ?_)
    intro link
    rw [hmem, h, List.mem_singleton]

/-- **Of consistent joints only a link out of reach is reported.** -/
theorem Tree.ofJoints_of_consistent {root : String} (name : String)
    (h : Consistent joints extra root) :
    Tree.ofJoints name joints extra =
      if missedFrom joints extra root = [] then .ok (treeOf name joints extra root)
      else .error (.unreached (missedFrom joints extra root) root) := by
  simp only [Tree.ofJoints, h.firstDefect_eq_none,
    filter_isNone_eq_singleton_iff.2 h.top]
  rw [← missedFrom]
  rcases missedFrom joints extra root with _ | ⟨link, links⟩
  · rfl
  · rfl

/-- **Of joints that are not consistent something else is reported.** -/
theorem consistent_or_fault (name : String) (joints : List (Joint α)) (extra : List String) :
    (∃ root, Consistent joints extra root) ∨
      ∃ fault, Tree.ofJoints name joints extra = .error fault ∧ fault.kind = .integrity := by
  rcases hfirst : firstDefect [] joints with _ | fault
  · have hnone := hfirst
    rw [firstDefect_eq_none_iff (by simp) (by simp), List.nil_append] at hnone
    obtain ⟨hnamed, hnames, hchildren⟩ := hnone
    -- Of the links below no joint there are none, one, or more.
    rcases htops : (linksOf joints extra).filter fun link => (jointAbove? joints link).isNone with
      _ | ⟨root, _ | ⟨other, tops⟩⟩
    · exact Or.inr ⟨.rootCount [], by simp only [Tree.ofJoints, hfirst, htops], rfl⟩
    · exact Or.inl ⟨root, hnamed, hnames, hchildren, filter_isNone_eq_singleton_iff.1 htops⟩
    · refine Or.inr ⟨.rootCount (root :: other :: tops), ?_, rfl⟩
      simp only [Tree.ofJoints, hfirst, htops]
  · refine Or.inr ⟨fault, ?_, kind_of_firstDefect hfirst⟩
    simp only [Tree.ofJoints, hfirst]

/-- **What a tree was made from.** -/
theorem Tree.ofJoints_eq_ok_iff {name : String} {tree : Tree α} :
    Tree.ofJoints name joints extra = .ok tree ↔
      ∃ root, Consistent joints extra root ∧
        (∀ link, Mentions joints extra link → Reaches joints root link) ∧
        tree = treeOf name joints extra root := by
  constructor
  · intro htree
    rcases consistent_or_fault name joints extra with ⟨root, h⟩ | ⟨fault, hfault, -⟩
    · rw [ofJoints_of_consistent name h] at htree
      split_ifs at htree with hnil
      exact ⟨root, h, missedFrom_eq_nil_iff.1 hnil, (Except.ok.inj htree).symm⟩
    · rw [hfault] at htree
      exact absurd htree (by simp)
  · rintro ⟨root, h, hreach, rfl⟩
    rw [ofJoints_of_consistent name h, if_pos (missedFrom_eq_nil_iff.2 hreach)]

/-- **The outcome of reading joints as a tree.** There is a tree exactly when the joints
are consistent and their root reaches every link; otherwise the joints are reported as
inconsistent, and if nothing but the reaching fails, what is named is, in order, the links
from which the way up never comes to the root: those on a circle or below one. -/
theorem Tree.ofJoints_outcome (name : String) (joints : List (Joint α)) (extra : List String) :
    ((∃ tree, Tree.ofJoints name joints extra = .ok tree) ↔
      ∃ root, Consistent joints extra root ∧
        ∀ link, Mentions joints extra link → Reaches joints root link) ∧
    (∀ fault, Tree.ofJoints name joints extra = .error fault → fault.kind = .integrity) ∧
    ∀ root, Consistent joints extra root →
      (∃ link, Mentions joints extra link ∧ ¬Reaches joints root link) →
      ∃ missed, Tree.ofJoints name joints extra = .error (.unreached missed root) ∧
        (Fault.unreached missed root : Fault Float).message? =
          some ("Links " ++ Text.quotedList missed ++ " are not connected to root link '"
            ++ root ++ "'.") ∧
        missed = (open Classical in
          (linksOf joints extra).filter fun link => ∀ n, rise joints n link ≠ some root) ∧
        ∀ link, link ∈ missed ↔ Mentions joints extra link ∧ BelowCycle joints link := by
  refine ⟨⟨?_, ?_⟩, ?_, ?_⟩
  · rintro ⟨tree, htree⟩
    obtain ⟨root, h, hreach, -⟩ := ofJoints_eq_ok_iff.1 htree
    exact ⟨root, h, hreach⟩
  · rintro ⟨root, h, hreach⟩
    exact ⟨treeOf name joints extra root, ofJoints_eq_ok_iff.2 ⟨root, h, hreach, rfl⟩⟩
  · intro fault hfault
    rcases consistent_or_fault name joints extra with ⟨root, h⟩ | ⟨fault', hfault', hkind⟩
    · rw [ofJoints_of_consistent name h] at hfault
      split_ifs at hfault
      rw [← Except.error.inj hfault, Fault.kind]
    · rw [hfault'] at hfault
      rw [← Except.error.inj hfault, hkind]
  · rintro root h ⟨link, hlink, hreach⟩
    refine ⟨missedFrom joints extra root, ?_, rfl, missedFrom_eq_filter_rise h.children root, ?_⟩
    · rw [ofJoints_of_consistent name h, if_neg]
      intro hnil
      exact hreach (missedFrom_eq_nil_iff.1 hnil link hlink)
    · intro link
      rw [mem_missedFrom]
      exact and_congr_right fun hl => h.not_reaches_iff_belowCycle hl

/-- A fixed joint that is nothing but a place between two links. -/
def Joint.weld (name parent child : String) : Joint α :=
  ⟨name, .fixed, parent, child, ⟨[], []⟩, [], none⟩

/-- A post, beside it two links that hang from each other, and a hand below one of these. -/
def strayJoints : List (Joint Float) :=
  [.weld "lift" "base" "post", .weld "there" "left" "right", .weld "back" "right" "left",
    .weld "wrist" "left" "hand"]

/-- **The hand of a stray arm is named**, though a joint hangs it somewhere. -/
theorem Tree.ofJoints_outcome_stray :
    ∃ missed, Tree.ofJoints "stray" strayJoints [] = .error (.unreached missed "base") ∧
      "hand" ∈ missed := by
  have hcons : Consistent strayJoints [] "base" :=
    ⟨by decide, by decide, by decide, filter_isNone_eq_singleton_iff.1 (by cbv)⟩
  have hhand : Mentions strayJoints [] "hand" := Or.inr ⟨.weld "wrist" "left" "hand", by decide⟩
  have hcycle : BelowCycle strayJoints "hand" := by
    have hthere : Hangs strayJoints "left" "right" := ⟨.weld "there" "left" "right", by decide⟩
    have hback : Hangs strayJoints "right" "left" := ⟨.weld "back" "right" "left", by decide⟩
    exact ⟨"left", (Relation.TransGen.single hthere).tail hback,
      Relation.ReflTransGen.single ⟨.weld "wrist" "left" "hand", by decide⟩⟩
  have hmiss := (hcons.not_reaches_iff_belowCycle hhand).2 hcycle
  obtain ⟨-, -, hmissed⟩ := Tree.ofJoints_outcome "stray" strayJoints []
  obtain ⟨missed, herr, -, -, hmem⟩ := hmissed "base" hcons ⟨"hand", hhand, hmiss⟩
  exact ⟨missed, herr, (hmem "hand").2 ⟨hhand, hcycle⟩⟩

end Linkage
