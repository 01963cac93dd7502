import Linkage.Proofs.Sharing
import Mathlib.Logic.Relation

/-!
# Every shared frame once

However many ways lead down to a cached frame, in a pass it is computed once, and when an
expression has been evaluated the pass holds the cached frames that were met on the way and no
others. The record of the work says so: it has the number of a cached frame once for every
time that its inside was computed for it.

A way down is met with again and again, so the work is not counted along the ways. What is
counted is what one computation adds to a pass (`Linkage.Gains`): to what is held, the cached
frames below that were not held before, and to the record, the number of a cached frame
exactly as often as to what is held. As a number is held at most once, the two together give
the result. For that, two things have to be known of every pass in between. Where a frame is
held, all cached frames below it are held too (`Linkage.Pass.IsClosed`), so nothing is missed
where it is not gone through again. And a cached frame is not below itself, so it is not held
under its own number while its inside is computed.

* `Linkage.FrameExpr.gains_inPass` – what one computation adds, by induction on the frame;
* `Linkage.Node.evaluate_once` – an expression evaluated in a new pass.
-/

namespace Linkage

variable {α : Type}

namespace Node

/-! ### Ways down -/

/-- **A node is met on a way down** from another, or is that one. -/
def Meets : Node α → Node α → Prop := Relation.ReflTransGen fun n m => m ∈ n.children

/-- **The cached frames met on the ways down from a node**, by number. -/
def CachedBelow (n : Node α) (id : Nat) : Prop := ∃ f, n.Meets (.frame (.cached id f))

theorem IsDag.mem_of_meets {S : Set (Node α)} (hS : IsDag S) {n m : Node α} (hn : n ∈ S)
    (h : n.Meets m) : m ∈ S := by
  induction h with
  | refl => exact hn
  | tail _ hm ih => exact hS.children_mem _ ih _ hm

theorem size_le_sizeOfAll {ns : List (Node α)} {n : Node α} (h : n ∈ ns) :
    n.size ≤ sizeOfAll ns := by
  obtain ⟨before, after, rfl⟩ := List.append_of_mem h
  rw [sizeOfAll_append, sizeOfAll]
  omega

/-- Ways down lead to nodes that are no larger. -/
theorem Meets.size_le {n m : Node α} (h : n.Meets m) : m.size ≤ n.size := by
  induction h with
  | refl => exact le_refl _
  | @tail k m _ hm ih =>
    have hchild : m.size ≤ sizeOfAll k.children := size_le_sizeOfAll hm
    rw [size_eq k] at ih
    omega

/-- **What is below a node** is the node or below what it is computed from. -/
theorem cachedBelow_iff {n : Node α} {id : Nat} :
    n.CachedBelow id ↔
      (∃ f, n = .frame (.cached id f)) ∨ ∃ m ∈ n.children, m.CachedBelow id := by
  constructor
  · rintro ⟨f, h⟩
    rcases Relation.ReflTransGen.cases_head h with rfl | ⟨m, hm, h⟩
    · exact Or.inl ⟨f, rfl⟩
    · exact Or.inr ⟨m, hm, f, h⟩
  · rintro (⟨f, rfl⟩ | ⟨m, hm, f, h⟩)
    · exact ⟨f, .refl⟩
    · exact ⟨f, .head hm h⟩

/-- Frames are computed from for frames only. -/
theorem exists_frame_of_child {n : Node α} {e : FrameExpr α} (h : .frame e ∈ n.children) :
    ∃ f, n = .frame f := by
  cases n with
  | scalar s => cases s <;> simp [children] at h
  | vector v => cases v <;> simp [children] at h
  | rotation r => cases r <;> simp [children] at h
  | frame f => exact ⟨f, rfl⟩

/-- **Below anything else there are no frames.** -/
theorem exists_frame_of_meets {n : Node α} {e : FrameExpr α} (h : n.Meets (.frame e)) :
    ∃ f, n = .frame f := by
  induction h using Relation.ReflTransGen.head_induction_on with
  | refl => exact ⟨e, rfl⟩
  | head hm _ ih =>
    obtain ⟨f, rfl⟩ := ih
    exact exists_frame_of_child hm

/-- **A cached frame is not below itself.** Below it there are smaller ones only. -/
theorem IsDag.not_cachedBelow_self {S : Set (Node α)} (hS : IsDag S) {id : Nat}
    {f : FrameExpr α} (h : .frame (.cached id f) ∈ S) : ¬(Node.frame f).CachedBelow id := by
  rintro ⟨g, hg⟩
  have hmem := hS.mem_of_meets (hS.cached_mem h) hg
  obtain ⟨-, rfl⟩ := FrameExpr.cached.inj (hS.eq_of_id_eq _ _ hmem h rfl)
  have hsize := hg.size_le
  rw [size, size, FrameExpr.size] at hsize
  omega

section Sorts

variable {id k : Nat}

theorem cachedBelow_build {position : VectorExpr α} {r : RotationExpr α} :
    ¬(Node.frame (.build id position r)).CachedBelow k := by
  rw [cachedBelow_iff]
  rintro (⟨f, h⟩ | ⟨m, hm, f, h⟩)
  · cases h
  · obtain ⟨e, rfl⟩ := exists_frame_of_meets h
    simp [children] at hm

theorem cachedBelow_product {factors : List (FrameExpr α)} :
    (Node.frame (.product id factors)).CachedBelow k ↔
      ∃ f ∈ factors, (Node.frame f).CachedBelow k := by
  rw [cachedBelow_iff]
  simp [children]

theorem cachedBelow_cached {f : FrameExpr α} :
    (Node.frame (.cached id f)).CachedBelow k ↔ k = id ∨ (Node.frame f).CachedBelow k := by
  rw [cachedBelow_iff]
  simp [children, eq_comm]

theorem cachedBelow_counted {f : FrameExpr α} :
    (Node.frame (.counted id f)).CachedBelow k ↔ (Node.frame f).CachedBelow k := by
  rw [cachedBelow_iff]
  simp [children]

end Sorts

end Node

/-! ### What a computation adds to a pass -/

namespace Pass

variable {S : Set (Node α)} {p p' : Pass α}

/-- **The numbers under which a pass holds frames.** -/
def keys (p : Pass α) : List Nat := p.held.map Prod.fst

theorem lookup_eq_none_iff {id : Nat} : p.held.lookup id = none ↔ id ∉ p.keys := by
  rw [List.lookup_eq_none_iff, keys, List.mem_map]
  grind

/-- **Where a pass holds a frame, it holds all cached frames below.** -/
def IsClosed (S : Set (Node α)) (p : Pass α) : Prop :=
  ∀ id f, .frame (.cached id f) ∈ S → id ∈ p.keys → ∀ k, (Node.frame f).CachedBelow k → k ∈ p.keys

theorem isClosed_new (S : Set (Node α)) : Pass.new.IsClosed S :=
  fun _ _ _ hid => absurd hid List.not_mem_nil

end Pass

open Pass

/-- **What a computation adds to a pass**: to what is held the numbers in `A`, each at most once,
and to the record the numbers of cached frames as often as to what is held. -/
structure Gains (S : Set (Node α)) (A : Nat → Prop) (p p' : Pass α) : Prop where
  mem_keys : ∀ id, id ∈ p'.keys ↔ id ∈ p.keys ∨ A id
  nodup : p.keys.Nodup → p'.keys.Nodup
  count : ∀ id f, .frame (.cached id f) ∈ S →
    p'.work.count id + p.keys.count id = p.work.count id + p'.keys.count id

namespace Gains

variable {S : Set (Node α)} {A B : Nat → Prop} {p p' p'' : Pass α}

/-- Nothing is added where all is held. -/
theorem of_held (h : ∀ id, A id → id ∈ p.keys) : Gains S A p p where
  mem_keys id := ⟨Or.inl, fun hid => hid.elim (fun h => h) (h id)⟩
  nodup hn := hn
  count _ _ _ := rfl

theorem congr (h : Gains S A p p') (hAB : ∀ id, A id ↔ B id) : Gains S B p p' where
  mem_keys id := by rw [h.mem_keys, hAB]
  nodup := h.nodup
  count := h.count

theorem trans (h : Gains S A p p') (h' : Gains S B p' p'') :
    Gains S (fun id => A id ∨ B id) p p'' where
  mem_keys id := by rw [h'.mem_keys, h.mem_keys, or_assoc]
  nodup hn := h'.nodup (h.nodup hn)
  count id f hf := by
    have hfirst := h.count id f hf
    have hsecond := h'.count id f hf
    omega

/-- **A pass stays closed** when what is below a node is added to it. -/
theorem isClosed (hS : Node.IsDag S) {n : Node α} (hn : n ∈ S) (h : Gains S n.CachedBelow p p')
    (hp : p.IsClosed S) : p'.IsClosed S := by
  intro id f hf hid k hk
  rw [h.mem_keys] at hid ⊢
  rcases hid with hbefore | ⟨g, hg⟩
  · exact Or.inl (hp id f hf hbefore k hk)
  · -- The frame met under this number is `f`, and what is below it is below `n`.
    obtain ⟨-, rfl⟩ := FrameExpr.cached.inj
      (hS.eq_of_id_eq _ _ (hS.mem_of_meets hn hg) hf rfl)
    obtain ⟨e, he⟩ := hk
    exact Or.inr ⟨e, hg.trans (he.head List.mem_cons_self)⟩

end Gains

/-! ### Frame by frame -/

section Success

variable {β γ : Type} {p p' : Pass α}

/-- **If what comes next succeeds**, so did what was before it. -/
theorem exists_of_inPass_bind {c : Computation α β} {g : β → Computation α γ} {y : γ}
    (h : (c >>= g).inPass p = (.ok y, p')) :
    ∃ x p₁, c.inPass p = (.ok x, p₁) ∧ (g x).inPass p₁ = (.ok y, p') := by
  rw [inPass_bind] at h
  rcases hc : c.inPass p with ⟨fault | x, p₁⟩
  · rw [hc] at h
    cases h
  · rw [hc] at h
    exact ⟨x, p₁, rfl, h⟩

/-- What is made of a result leaves the pass as it was then. -/
theorem exists_of_inPass_map {c : Computation α β} {g : β → γ} {y : γ}
    (h : (do return g (← c) : Computation α γ).inPass p = (.ok y, p')) :
    ∃ x, c.inPass p = (.ok x, p') := by
  obtain ⟨x, p₁, hc, h⟩ := exists_of_inPass_bind h
  obtain ⟨-, rfl⟩ := Prod.mk.inj h
  exact ⟨x, hc⟩

end Success

section InPass

variable [Scalar α] {q : List α} {S : Set (Node α)}

omit [Scalar α] in
/-- **What is computed once more is added once.** The pass holds the frame inside and what is
below it, and not yet the frame itself. -/
theorem Gains.holding (hS : Node.IsDag S) {id : Nat} {f : FrameExpr α}
    (hf : .frame (.cached id f) ∈ S) {p p' : Pass α} (hid : id ∉ p.keys)
    (h : Gains S (Node.frame f).CachedBelow (p.noting id) p') (x : Frame α) :
    Gains S (Node.frame (.cached id f)).CachedBelow p (p'.holding id x) := by
  have hkeys : (p'.holding id x).keys = id :: p'.keys := rfl
  have hfresh : id ∉ p'.keys := by
    rw [h.mem_keys]
    exact not_or.2 ⟨hid, hS.not_cachedBelow_self hf⟩
  refine ⟨fun k => ?_, fun hn => ?_, fun k g hg => ?_⟩
  · rw [hkeys, List.mem_cons, h.mem_keys, Node.cachedBelow_cached, or_left_comm]
    rfl
  · rw [hkeys, List.nodup_cons]
    exact ⟨hfresh, h.nodup hn⟩
  · have hcount : p'.work.count k + p.keys.count k = (id :: p.work).count k + p'.keys.count k :=
      h.count k g hg
    have hwork : (p'.holding id x).work = p'.work := rfl
    rw [List.count_cons] at hcount
    rw [hkeys, hwork, List.count_cons]
    omega

/-- Frames one after the other add what is below any of them. -/
theorem gains_frames (hS : Node.IsDag S) {es : List (FrameExpr α)} (hes : ∀ e ∈ es, .frame e ∈ S)
    (ih : ∀ e ∈ es, ∀ (p p' : Pass α) (x : Frame α), p.IsClosed S →
      (e.evaluate q).inPass p = (.ok x, p') → Gains S (Node.frame e).CachedBelow p p')
    {p p' : Pass α} {xs : List (Frame α)} (hp : p.IsClosed S)
    (h : (evaluateFrames q es).inPass p = (.ok xs, p')) :
    Gains S (fun k => ∃ e ∈ es, (Node.frame e).CachedBelow k) p p' := by
  induction es generalizing p xs with
  | nil =>
    obtain ⟨-, rfl⟩ := Prod.mk.inj h
    exact .of_held fun k hk => by simp at hk
  | cons e es ihes =>
    rw [List.forall_mem_cons] at hes ih
    rw [evaluateFrames] at h
    obtain ⟨x, p₁, hfirst, h⟩ := exists_of_inPass_bind h
    obtain ⟨ys, hrest⟩ := exists_of_inPass_map h
    -- The first frame leaves the pass closed, as the others need it.
    have hgains := ih.1 p p₁ x hp hfirst
    have hgains' := ihes hes.2 ih.2 (hgains.isClosed hS hes.1 hp) hrest
    refine (hgains.trans hgains').congr fun k => ?_
    rw [List.exists_mem_cons_iff]

/-- **What one computation adds to a pass** is what is below the frame. By induction on the
frame: what is found in a closed pass has all that is below it there. -/
theorem FrameExpr.gains_inPass (hS : Node.IsDag S) {e : FrameExpr α} (he : .frame e ∈ S)
    {p p' : Pass α} (hp : p.IsClosed S) {x : Frame α}
    (h : (e.evaluate q).inPass p = (.ok x, p')) : Gains S (Node.frame e).CachedBelow p p' := by
  induction e using FrameExpr.induction generalizing p p' x with
  | build id position r =>
    rw [inPass_build] at h
    obtain ⟨-, rfl⟩ := Prod.mk.inj h
    exact .of_held fun k hk => absurd hk Node.cachedBelow_build
  | product id factors ih =>
    rw [FrameExpr.evaluate] at h
    obtain ⟨xs, hfactors⟩ := exists_of_inPass_map h
    have hgains := gains_frames hS (hS.factor_mem he)
      (fun f hf p p' x hp hx => ih f hf (hS.factor_mem he f hf) hp hx) hp hfactors
    exact hgains.congr fun k => Node.cachedBelow_product.symm
  | cached id f ih =>
    rcases hx : p.held.lookup id with _ | y
    · rw [inPass_cached_of_not_held p hx] at h
      rcases hresult : (f.evaluate q).inPass (p.noting id) with ⟨fault | y, p₁⟩
      · rw [hresult] at h
        cases h
      · rw [hresult] at h
        obtain ⟨-, rfl⟩ := Prod.mk.inj h
        have hgains := ih (hS.cached_mem he) (p := p.noting id) hp hresult
        exact hgains.holding hS he (lookup_eq_none_iff.1 hx) y
    · rw [inPass_cached_of_held p hx] at h
      obtain ⟨-, rfl⟩ := Prod.mk.inj h
      have hid : id ∈ p.keys := by
        by_contra hid
        rw [lookup_eq_none_iff.2 hid] at hx
        cases hx
      -- The inside is not gone through, but all cached frames there are held already.
      refine .of_held fun k hk => ?_
      rcases Node.cachedBelow_cached.1 hk with rfl | hk
      · exact hid
      · exact hp id f he hid k hk
  | counted id f ih =>
    rw [inPass_counted] at h
    obtain ⟨hkeys, hnodup, hcount⟩ := ih (hS.counted_mem he) (p := p.noting id) hp h
    refine ⟨fun k => ?_, hnodup, fun k g hg => ?_⟩
    · rw [hkeys, Node.cachedBelow_counted]
      rfl
    · -- The number that is noted here is that of no cached frame.
      have hne : id ≠ k := by
        rintro rfl
        cases hS.eq_of_id_eq _ _ he hg rfl
      have hnoted := hcount k g hg
      rw [Pass.noting, List.count_cons_of_ne hne] at hnoted
      exact hnoted
  | undefined id => cases h

end InPass

namespace Node

variable [Scalar α] {q : List α} {S : Set (Node α)}

/-- **Every shared frame is computed once.** When an expression has been evaluated in a new pass,
every cached frame below it was computed for exactly once, and those are the frames that the
pass holds, each once. -/
theorem evaluate_once (hS : IsDag S) {n : Node α} (hn : n ∈ S) {x : Quantity α} {p : Pass α}
    (h : (n.evaluate q).inPass .new = (.ok x, p)) :
    (∀ id f, n.Meets (.frame (.cached id f)) → p.work.count id = 1) ∧
      (∀ id, id ∈ p.keys ↔ ∃ f, n.Meets (.frame (.cached id f))) ∧ p.keys.Nodup := by
  have hgains : Gains S n.CachedBelow .new p := by
    cases n with
    | scalar e | vector e | rotation e =>
      rw [evaluate, inPass_map] at h
      obtain ⟨-, rfl⟩ := Prod.mk.inj h
      refine .of_held fun k hk => ?_
      obtain ⟨f, hf⟩ := hk
      obtain ⟨e, he⟩ := exists_frame_of_meets hf
      cases he
    | frame e =>
      rw [evaluate] at h
      obtain ⟨y, hframe⟩ := exists_of_inPass_map h
      exact e.gains_inPass hS hn (isClosed_new S) hframe
  have hkeys : ∀ id, id ∈ p.keys ↔ n.CachedBelow id := by
    intro id
    rw [hgains.mem_keys]
    exact or_iff_right List.not_mem_nil
  have hnodup : p.keys.Nodup := hgains.nodup List.nodup_nil
  refine ⟨fun id f hf => ?_, hkeys, hnodup⟩
  -- The pass was new, so the record has the number as often as it is held.
  have hcount : p.work.count id + 0 = 0 + p.keys.count id :=
    hgains.count id f (hS.mem_of_meets hn hf)
  have hone : p.keys.count id = 1 := List.count_eq_one_of_mem hnodup ((hkeys id).2 ⟨f, hf⟩)
  omega

/-- **The pair of frames with one core** has each of the two computed once. -/
theorem evaluate_once_pair :
    ∃ x p, ((frame pairFrame).evaluate []).inPass .new = (.ok x, p) ∧ p.work.count 1 = 1 ∧
      p.work.count 3 = 1 ∧ p.keys.Nodup := by
  have hmem : frame pairFrame ∈ {n | n ∈ sharedNodes} := by simp [sharedNodes]
  have hcore : (frame pairFrame).Meets (frame coreFrame) :=
    (Relation.ReflTransGen.single (b := frame (.product 2 [coreFrame, coreFrame]))
      List.mem_cons_self).tail List.mem_cons_self
  have hok : ((frame pairFrame).evaluate []).inPass .new =
      (.ok (.frame (Frame.product [Frame.product [], Frame.product []])),
        (((Pass.new.noting 3).noting 1).holding 1 (Frame.product [])).holding 3
          (Frame.product [Frame.product [], Frame.product []])) := rfl
  obtain ⟨hcount, -, hnodup⟩ := evaluate_once isDag_sharedNodes hmem hok
  exact ⟨_, _, hok, hcount 1 _ hcore, hcount 3 _ .refl, hnodup⟩

end Node

end Linkage
