import Linkage.Space.Batch
import Mathlib.Data.List.Forall2
import Mathlib.Data.List.GetD

/-!
# Batches entry by entry

The functions of rotations and frames are computed on a whole batch, laid out as a grid of
numbers. What comes out is what would have come out entry by entry: a batch of the common
shape of the arguments, and at every index the function of the entries that stand there.

What goes together is told by a rule about single extents, `Linkage.Broadcasts`: counted
from the end, the extents of two shapes are the same or one of them is one. Three things
are needed for the rest. The indices of a shape are those within its extents
(`Linkage.mem_indices_iff`), a batch has an entry at each of them
(`Linkage.Batch.exists_get?`), and a batch read off a grid has the entries that the grid
holds (`Linkage.Batch.get?_ofGrid`).

## Main results

* `Linkage.commonShape?_eq_some_iff`: what the common shape of two shapes is.
* `Linkage.Batch.entry_by_entry`: the functions of rotations and frames on batches.
-/

namespace Linkage

/-! ### Shapes that go together -/

/-- **Two extents and what they come to**: they are the same, or one of them is one and the
other counts. -/
def ComesTo (m n e : Nat) : Prop := (m = n ∧ e = m) ∨ (m = 1 ∧ e = n) ∨ (n = 1 ∧ e = m)

/-- The extent of a shape in a dimension counted from its end. A shape has the extent one
in the dimensions that it lacks. -/
def extentAt (shape : List Nat) (k : Nat) : Nat := shape.reverse.getD k 1

/-- **Two shapes and what they come to**: as many dimensions as the longer has, and in each,
counted from the end, what the two extents come to. -/
structure Broadcasts (s t shape : List Nat) : Prop where
  length : shape.length = max s.length t.length
  extent : ∀ k < shape.length, ComesTo (extentAt s k) (extentAt t k) (extentAt shape k)

theorem comesTo_one_left {n e : Nat} : ComesTo 1 n e ↔ e = n := by
  unfold ComesTo
  omega

theorem ComesTo.symm {m n e : Nat} (h : ComesTo m n e) : ComesTo n m e := by
  unfold ComesTo at *
  omega

theorem comesTo_iff {m n e : Nat} :
    ComesTo m n e ↔ (m = n ∨ m = 1 ∨ n = 1) ∧ e = if m = 1 then n else m := by
  unfold ComesTo
  split <;> omega

/-- What comes of ones leaves a shape as it is. -/
theorem eq_of_comesTo_one {t u : List Nat} (hlength : u.length = t.length)
    (h : ∀ k < u.length, ComesTo 1 (t.getD k 1) (u.getD k 1)) : u = t := by
  refine List.ext_getElem hlength fun k hu ht => ?_
  have hk := comesTo_one_left.1 (h k hu)
  rwa [List.getD_eq_getElem _ _ hu, List.getD_eq_getElem _ _ ht] at hk

/-- The rule for shapes given from their ends, by induction on their dimensions. -/
theorem commonReversed?_eq_some_iff {s t u : List Nat} :
    commonReversed? s t = some u ↔
      u.length = max s.length t.length ∧
        ∀ k < u.length, ComesTo (s.getD k 1) (t.getD k 1) (u.getD k 1) := by
  induction s generalizing t u with
  | nil =>
    have hnil : commonReversed? [] t = some u ↔ u = t :=
      ⟨fun h => (Option.some.inj h).symm, fun h => congrArg some h.symm⟩
    rw [hnil]
    constructor
    · rintro rfl
      exact ⟨by simp, fun k _ => comesTo_one_left.2 rfl⟩
    · rintro ⟨hlength, h⟩
      exact eq_of_comesTo_one (by simpa using hlength) h
  | cons m s ih =>
    cases t with
    | nil =>
      have hnil : commonReversed? (m :: s) [] = some u ↔ u = m :: s :=
        ⟨fun h => (Option.some.inj h).symm, fun h => congrArg some h.symm⟩
      rw [hnil]
      constructor
      · rintro rfl
        exact ⟨by simp, fun k _ => (comesTo_one_left.2 rfl).symm⟩
      · rintro ⟨hlength, h⟩
        exact eq_of_comesTo_one (by simpa using hlength) fun k hk => (h k hk).symm
    | cons n t =>
      rw [commonReversed?_cons_eq_some_iff]
      constructor
      · rintro ⟨v, hv, hmn, rfl⟩
        obtain ⟨hlength, h⟩ := ih.1 hv
        refine ⟨by simp [hlength], fun k hk => ?_⟩
        cases k with
        | zero => exact comesTo_iff.2 ⟨hmn, rfl⟩
        | succ k => exact h k (Nat.lt_of_succ_lt_succ hk)
      · rintro ⟨hlength, h⟩
        cases u with
        | nil => simp at hlength
        | cons e v =>
          obtain ⟨hmn, rfl⟩ := comesTo_iff.1 (h 0 (Nat.zero_lt_succ _))
          refine ⟨v, ih.2 ⟨by simpa using hlength, fun k hk => ?_⟩, hmn, rfl⟩
          exact h (k + 1) (Nat.succ_lt_succ hk)

/-- **The common shape of two shapes** is what they come to. -/
theorem commonShape?_eq_some_iff {s t shape : List Nat} :
    commonShape? s t = some shape ↔ Broadcasts s t shape := by
  have hreverse : commonShape? s t = some shape ↔
      commonReversed? s.reverse t.reverse = some shape.reverse := by
    rw [commonShape?, Option.map_eq_some_iff]
    constructor
    · rintro ⟨u, hu, rfl⟩
      rw [hu, List.reverse_reverse]
    · intro h
      exact ⟨_, h, List.reverse_reverse shape⟩
  rw [hreverse, commonReversed?_eq_some_iff, List.length_reverse, List.length_reverse,
    List.length_reverse]
  exact ⟨fun h => ⟨h.1, h.2⟩, fun h => ⟨h.length, h.extent⟩⟩

instance (s t shape : List Nat) : Decidable (Broadcasts s t shape) :=
  decidable_of_iff _ commonShape?_eq_some_iff

example : Broadcasts [3, 1, 0] [2, 1] [3, 2, 0] := by decide

example : ∀ shape ∈ [[2], [3], [6]], ¬Broadcasts [2] [3] shape := by decide

theorem Broadcasts.commonReversed? {s t shape : List Nat} (h : Broadcasts s t shape) :
    commonReversed? s.reverse t.reverse = some shape.reverse := by
  obtain ⟨u, hu, rfl⟩ := Option.map_eq_some_iff.1 (commonShape?_eq_some_iff.2 h)
  rw [hu, List.reverse_reverse]

/-! ### Indices -/

theorem isWithin_iff_forall₂ {extents index : List Nat} :
    IsWithin extents index ↔ List.Forall₂ (fun n k => k < n) extents index := by
  induction extents generalizing index with
  | nil => cases index <;> simp [IsWithin]
  | cons n extents ih => cases index <;> simp [IsWithin, ih]

theorem isWithin_reverse_iff {extents index : List Nat} :
    IsWithin extents.reverse index.reverse ↔ IsWithin extents index := by
  rw [isWithin_iff_forall₂, isWithin_iff_forall₂, List.forall₂_reverse_iff]

/-- **The indices of a shape are those within its extents.** -/
theorem mem_indices_iff {shape index : List Nat} : index ∈ indices shape ↔ IsWithin shape index := by
  induction shape generalizing index with
  | nil => cases index <;> simp [indices, IsWithin]
  | cons n shape ih => cases index <;> simp [indices, IsWithin, ih]

/-- Lists of one length in a row: the place in the row tells which list and where in it. -/
theorem getElem?_flatMap_of_length {β γ : Type} {f : β → List γ} {size : Nat}
    (hf : ∀ x, (f x).length = size) (xs : List β) (k : Nat) {o : Nat} (ho : o < size) :
    (xs.flatMap f)[k * size + o]? = xs[k]?.bind fun x => (f x)[o]? := by
  induction xs generalizing k with
  | nil => simp
  | cons x xs ih =>
    rw [List.flatMap_cons]
    cases k with
    | zero =>
      rw [Nat.zero_mul, Nat.zero_add, List.getElem?_append_left (by rw [hf]; exact ho)]
      rfl
    | succ k =>
      have hle : size ≤ (k + 1) * size + o := by
        rw [Nat.add_mul, Nat.one_mul]
        omega
      have hsub : (k + 1) * size + o - size = k * size + o := by
        rw [Nat.add_mul, Nat.one_mul]
        omega
      rw [List.getElem?_append_right (by rw [hf]; exact hle), hf, hsub, ih k,
        List.getElem?_cons_succ]

/-- **An index has a place among the indices of its shape**, and stands in that place. -/
theorem exists_offset? {shape index : List Nat} (h : IsWithin shape index) :
    ∃ o, offset? shape index = some o ∧ o < extent shape ∧ (indices shape)[o]? = some index := by
  induction shape generalizing index with
  | nil =>
    cases index with
    | nil => exact ⟨0, rfl, Nat.one_pos, rfl⟩
    | cons k index => exact h.elim
  | cons n shape ih =>
    cases index with
    | nil => exact h.elim
    | cons k index =>
      obtain ⟨hk, hindex⟩ := h
      obtain ⟨o, ho, hlt, hget⟩ := ih hindex
      refine ⟨k * extent shape + o, ?_, ?_, ?_⟩
      · rw [offset?, if_pos hk, ho]
        rfl
      · calc k * extent shape + o < k * extent shape + extent shape := Nat.add_lt_add_left hlt _
          _ = (k + 1) * extent shape := by rw [Nat.add_mul, Nat.one_mul]
          _ ≤ n * extent shape := Nat.mul_le_mul_right _ hk
      · have hlength : ∀ k : Nat, ((indices shape).map (k :: ·)).length = extent shape := by
          intro k
          rw [List.length_map, length_indices]
        rw [indices, getElem?_flatMap_of_length hlength _ k hlt, List.getElem?_range hk]
        simp [hget]

/-- An index is looked at as far as there are extents. -/
theorem source_take (extents index : List Nat) :
    source extents (index.take extents.length) = source extents index := by
  induction extents generalizing index with
  | nil => rfl
  | cons n extents ih =>
    cases index with
    | nil => rfl
    | cons k index => exact congrArg (_ :: ·) (ih index)

/-- What stands at an index, from either end. -/
theorem reverse_sourceIndex {shape index : List Nat} (h : shape.length ≤ index.length) :
    (sourceIndex shape index).reverse = source shape.reverse index.reverse := by
  have hlength : shape.length = (index.drop (index.length - shape.length)).length := by
    rw [List.length_drop]
    omega
  have htake : index.length - (index.length - shape.length) = shape.reverse.length := by
    rw [List.length_reverse]
    omega
  rw [sourceIndex, List.reverse_zipWith hlength, List.reverse_drop, htake]
  exact source_take shape.reverse index.reverse

/-! ### Entries -/

namespace Batch

variable {α β γ δ : Type}

/-- **A batch has an entry at every index of its shape.** -/
theorem exists_get? (b : Batch β) {index : List Nat} (h : IsWithin b.shape index) :
    ∃ x, b.get? index = some x := by
  obtain ⟨o, ho, hlt, -⟩ := exists_offset? h
  rw [← b.length_entries] at hlt
  exact ⟨b.entries[o], by rw [get?, ho]; exact List.getElem?_eq_getElem hlt⟩

theorem get?_tabulate {shape index : List Nat} (h : IsWithin shape index) (f : List Nat → β) :
    (tabulate shape f).get? index = some (f index) := by
  obtain ⟨o, ho, -, hget⟩ := exists_offset? h
  rw [get?]
  change (offset? shape index).bind (fun o => ((indices shape).map f)[o]?) = _
  rw [ho, Option.bind_some, List.getElem?_map, hget]
  rfl

/-- A batch of no dimension has one entry. -/
theorem eq_single {b : Batch β} {x : β} (hshape : b.shape = []) (h : b.get? [] = some x) :
    b = single x := by
  obtain ⟨shape, entries, hlength⟩ := b
  obtain rfl : shape = [] := hshape
  obtain ⟨y, rfl⟩ := List.length_eq_one_iff.1 hlength
  obtain rfl : y = x := Option.some.inj h
  rfl

section Grids

variable {l : Layout α β} {g : Grid α} {s : List Nat} {F : List Nat → β}

theorem shape_ofGrid (h : g.Holds l s F) : (ofGrid l g).shape = s.reverse := by
  change (g.extents.drop l.extents.length).reverse = _
  rw [h.extents, List.drop_left]

/-- **A batch read off a grid** has the entries that the grid holds. -/
theorem get?_ofGrid (h : g.Holds l s F) {index : List Nat} (hindex : IsWithin s.reverse index) :
    (ofGrid l g).get? index = some (F index.reverse) := by
  have hwithin : IsWithin s index.reverse := by
    rwa [← isWithin_reverse_iff, List.reverse_reverse]
  rw [← shape_ofGrid h] at hindex
  exact (get?_tabulate hindex _).trans
    (congrArg some (l.assemble_eq _ _ fun k hk => h.entry k _ hk hwithin))

/-- A grid is laid out from the entries of a batch. -/
theorem get?_eq_cell [Zero α] (l : Layout α β) (b : Batch β) {index : List Nat}
    (h : IsWithin b.shape index) : b.get? index = some (b.cell l index.reverse) := by
  obtain ⟨x, hx⟩ := b.exists_get? h
  rw [cell, List.reverse_reverse, hx]
  rfl

/-- What stands at an index of a larger shape is an entry of the batch. -/
theorem get?_sourceIndex [Zero α] (l : Layout α β) (b : Batch β) {t shape index : List Nat}
    (hcommon : commonReversed? b.shape.reverse t = some shape.reverse)
    (h : IsWithin shape index) :
    b.get? (sourceIndex b.shape index) =
      some (b.cell l (source b.shape.reverse index.reverse)) := by
  have hlength : b.shape.length ≤ index.length := by
    have := length_of_commonReversed? hcommon
    rw [List.length_reverse, List.length_reverse] at this
    rw [h.length_eq, this]
    exact Nat.le_max_left _ _
  have hsource := reverse_sourceIndex hlength
  have hwithin : IsWithin b.shape (sourceIndex b.shape index) := by
    rw [← isWithin_reverse_iff, hsource]
    exact (isWithin_reverse_iff.2 h).source hcommon
  rw [b.get?_eq_cell l hwithin, hsource]

end Grids

/-! ### Functions of batches -/

/-- **A function of batches that goes entry by entry**: it keeps the shape, has at every
index the function of what stands there, and of a batch of no dimension is that function. -/
structure CellByCell (F : Batch β → Batch γ) (f : β → γ) : Prop where
  single : ∀ x, F (single x) = single (f x)
  shape : ∀ b, (F b).shape = b.shape
  entry : ∀ b, ∀ index ∈ indices b.shape, ∃ x, b.get? index = some x ∧
    (F b).get? index = some (f x)

/-- **A function of two batches that goes entry by entry**: batches whose shapes go together
have a result of what the shapes come to, which has at every index the function of what
stands there in either. -/
structure PairByPair (F : Batch β → Batch γ → Option (Batch δ)) (f : β → γ → δ) : Prop where
  single : ∀ x y, F (single x) (single y) = some (single (f x y))
  entry : ∀ a b shape, Broadcasts a.shape b.shape shape →
    ∃ c, F a b = some c ∧ c.shape = shape ∧ ∀ index ∈ indices shape,
      ∃ x y, a.get? (sourceIndex a.shape index) = some x ∧
        b.get? (sourceIndex b.shape index) = some y ∧ c.get? index = some (f x y)

section Functions

variable [Zero α] {l : Layout α β} {m : Layout α γ} {n : Layout α δ}

/-- A function that comes to a grid of the right entries goes entry by entry. -/
theorem cellByCell_of_holds {F : Batch β → Batch γ} {f : β → γ}
    (h : ∀ b, ∃ g, F b = ofGrid m g ∧ g.Holds m b.shape.reverse fun i => f (b.cell l i)) :
    CellByCell F f := by
  have hshape : ∀ b, (F b).shape = b.shape := by
    intro b
    obtain ⟨g, hF, hg⟩ := h b
    rw [hF, shape_ofGrid hg, List.reverse_reverse]
  have hentry : ∀ b, ∀ index ∈ indices b.shape, ∃ x, b.get? index = some x ∧
      (F b).get? index = some (f x) := by
    intro b index hindex
    obtain ⟨g, hF, hg⟩ := h b
    have hwithin := mem_indices_iff.1 hindex
    refine ⟨_, b.get?_eq_cell l hwithin, ?_⟩
    rw [hF, get?_ofGrid hg (by rwa [List.reverse_reverse])]
  refine ⟨fun x => ?_, hshape, hentry⟩
  obtain ⟨y, hy, hget⟩ := hentry (Batch.single x) [] (by simp [Batch.single, indices])
  obtain rfl : x = y := Option.some.inj hy
  exact eq_single (hshape _) hget

/-- A function of two batches that comes to a grid of the right entries goes entry by
entry. -/
theorem pairByPair_of_holds {F : Batch β → Batch γ → Option (Batch δ)} {f : β → γ → δ}
    (h : ∀ a b u, commonReversed? a.shape.reverse b.shape.reverse = some u →
      ∃ g, F a b = some (ofGrid n g) ∧
        g.Holds n u fun i => f (a.cell l (source a.shape.reverse i))
          (b.cell m (source b.shape.reverse i))) :
    PairByPair F f := by
  have hentry : ∀ a b shape, Broadcasts a.shape b.shape shape →
      ∃ c, F a b = some c ∧ c.shape = shape ∧ ∀ index ∈ indices shape,
        ∃ x y, a.get? (sourceIndex a.shape index) = some x ∧
          b.get? (sourceIndex b.shape index) = some y ∧ c.get? index = some (f x y) := by
    intro a b shape hshape
    have hu := hshape.commonReversed?
    obtain ⟨g, hF, hg⟩ := h a b _ hu
    refine ⟨_, hF, by rw [shape_ofGrid hg, List.reverse_reverse], fun index hindex => ?_⟩
    have hwithin := mem_indices_iff.1 hindex
    have hu' : commonReversed? b.shape.reverse a.shape.reverse = some shape.reverse := by
      rw [commonReversed?_comm, hu]
    refine ⟨_, _, a.get?_sourceIndex l hu hwithin, b.get?_sourceIndex m hu' hwithin, ?_⟩
    rw [get?_ofGrid hg (by rwa [List.reverse_reverse])]
  refine ⟨fun x y => ?_, hentry⟩
  obtain ⟨c, hc, hshape, hget⟩ :=
    hentry (Batch.single x) (Batch.single y) [] ⟨rfl, fun k hk => absurd hk (Nat.not_lt_zero k)⟩
  obtain ⟨x', y', hx, hy, hget⟩ := hget [] (by simp [indices])
  obtain rfl : x = x' := Option.some.inj hx
  obtain rfl : y = y' := Option.some.inj hy
  rw [hc, eq_single hshape hget]

end Functions

/-! ### Rotations and frames -/

section Frames

variable [Scalar α]

theorem cellByCell_skew : CellByCell (skew (α := α)) Vec3.skew := by
  refine cellByCell_of_holds (l := .vector) (m := .matrix) fun v => ?_
  obtain ⟨g, hg, hheld⟩ := (v.holds_toGrid .vector).skew?
  refine ⟨g, ?_, hheld⟩
  simp only [skew, hg, Option.get_some]

theorem pairByPair_ofAxisAngle? : PairByPair (ofAxisAngle? (α := α)) Mat3.ofAxisAngle := by
  refine pairByPair_of_holds (l := .vector) (m := .lone 0) (n := .matrix) fun a b u hu => ?_
  obtain ⟨g, hg, hheld⟩ := (a.holds_toGrid .vector).ofAxisAngle? (b.holds_toGrid (.lone 0)) hu
  exact ⟨g, congrArg (Option.map (ofGrid .matrix)) hg, hheld⟩

theorem cellByCell_ofQuaternion : CellByCell (ofQuaternion (α := α)) Mat3.ofQuaternion := by
  refine cellByCell_of_holds (l := .quaternion) (m := .matrix) fun q => ?_
  obtain ⟨g, hg, hheld⟩ := (q.holds_toGrid .quaternion).ofQuaternion?
  refine ⟨g, ?_, hheld⟩
  simp only [ofQuaternion, hg, Option.get_some]

theorem pairByPair_ofParts? : PairByPair (ofParts? (α := α)) Frame.ofParts := by
  refine pairByPair_of_holds (l := .vector) (m := .matrix) (n := .frame) fun a b u hu => ?_
  obtain ⟨g, hg, hheld⟩ := (a.holds_toGrid .vector).ofParts? (b.holds_toGrid .matrix) hu
  exact ⟨g, congrArg (Option.map (ofGrid .frame)) hg, hheld⟩

theorem pairByPair_mul? : PairByPair (mul? (α := α)) (· * ·) := by
  refine pairByPair_of_holds (l := .frame) (m := .frame) (n := .frame) fun a b u hu => ?_
  obtain ⟨g, hg, hheld⟩ :=
    (a.holds_toGrid .frame).matmul? (b.holds_toGrid .frame) rfl hu Grid.part_frame_mul
  exact ⟨g, congrArg (Option.map (ofGrid .frame)) hg, hheld⟩

theorem cellByCell_position : CellByCell (position (α := α)) Frame.position :=
  cellByCell_of_holds (l := .frame) (m := .vector) fun f =>
    ⟨_, rfl, (f.holds_toGrid .frame).position⟩

theorem cellByCell_rotation : CellByCell (rotation (α := α)) Frame.rotation :=
  cellByCell_of_holds (l := .frame) (m := .matrix) fun f =>
    ⟨_, rfl, (f.holds_toGrid .frame).rotation⟩

/-- **The functions of rotations and frames on batches** of any shapes. The positions and
the rotations of frames made of their parts are those parts, brought to the shape of the
frames. -/
theorem entry_by_entry :
    CellByCell (skew (α := α)) Vec3.skew ∧
    PairByPair (ofAxisAngle? (α := α)) Mat3.ofAxisAngle ∧
    CellByCell (ofQuaternion (α := α)) Mat3.ofQuaternion ∧
    PairByPair (ofParts? (α := α)) Frame.ofParts ∧
    PairByPair (mul? (α := α)) (· * ·) ∧
    CellByCell (position (α := α)) Frame.position ∧
    CellByCell (rotation (α := α)) Frame.rotation ∧
    ∀ (p : Batch (Vec3 α)) (r : Batch (Mat3 α)) (shape : List Nat),
      Broadcasts p.shape r.shape shape →
      ∃ f, ofParts? p r = some f ∧ f.position.shape = shape ∧ f.rotation.shape = shape ∧
        ∀ index ∈ indices shape,
          f.position.get? index = p.get? (sourceIndex p.shape index) ∧
          f.rotation.get? index = r.get? (sourceIndex r.shape index) := by
  refine ⟨cellByCell_skew, pairByPair_ofAxisAngle?, cellByCell_ofQuaternion, pairByPair_ofParts?,
    pairByPair_mul?, cellByCell_position, cellByCell_rotation, fun p r shape hshape => ?_⟩
  obtain ⟨f, hf, rfl, hentry⟩ := pairByPair_ofParts?.entry p r shape hshape
  refine ⟨f, hf, cellByCell_position.shape f, cellByCell_rotation.shape f, fun index hindex => ?_⟩
  obtain ⟨x, m, hx, hm, hget⟩ := hentry index hindex
  obtain ⟨t, ht, hposition⟩ := cellByCell_position.entry f index hindex
  obtain ⟨t', ht', hrotation⟩ := cellByCell_rotation.entry f index hindex
  obtain rfl := Option.some.inj (hget.symm.trans ht)
  obtain rfl := Option.some.inj (hget.symm.trans ht')
  rw [hposition, hrotation, hx, hm, Frame.position_ofParts, Frame.rotation_ofParts]
  exact ⟨rfl, rfl⟩

end Frames

end Batch

end Linkage
