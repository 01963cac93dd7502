import Linkage.Space.Frame
import Linkage.Space.Grid

/-!
# Cells of a grid

A grid of vectors is, along its last dimension, a vector at every index of its batch, and a
grid of matrices a matrix along its last two. A layout says how a thing of a kind lies in
a grid like that, and `Linkage.Grid.Holds` that a grid holds a thing of the kind at every
index of a batch.

What is done to a whole grid is done to what it holds. There is one statement of this for
each thing that can be done to a grid, and from them one for each of the functions of
rotations and frames. Where grids are brought together, what one holds at an index is
taken from the index that stands there.

## Main definitions

* `Linkage.Layout`, with the layouts of numbers, vectors, quaternions, matrices and frames.
* `Linkage.Grid.Holds`.
-/

namespace Linkage

/-! ### Layouts -/

/-- **How things of a kind lie in a grid**: the extents of one of them, the number at each
of its indices, and how it is put together from those numbers. -/
structure Layout (α β : Type) where
  extents : List Nat
  part : β → List Nat → α
  assemble : (List Nat → α) → β
  /-- What is put together from the parts of a thing is that thing. -/
  assemble_eq : ∀ f x, (∀ k, IsWithin extents k → f k = part x k) → assemble f = x

/-- Along dimensions of extent one there is one index. -/
theorem isWithin_replicate (depth : Nat) :
    IsWithin (List.replicate depth 1) (List.replicate depth 0) := by
  induction depth with
  | zero => trivial
  | succ depth ih => exact ⟨Nat.one_pos, ih⟩

namespace Layout

variable {α : Type}

/-- A number lies by itself, or along dimensions of extent one. -/
def lone (depth : Nat) : Layout α α where
  extents := List.replicate depth 1
  part x _ := x
  assemble f := f (List.replicate depth 0)
  assemble_eq _ _ h := h _ (isWithin_replicate depth)

/-- The component of a vector of a number. -/
def component (v : Vec3 α) : Nat → α
  | 0 => v.x
  | 1 => v.y
  | _ => v.z

/-- A vector lies along one dimension, -/
def vector : Layout α (Vec3 α) where
  extents := [3]
  part v k := component v (k.headD 0)
  assemble f := ⟨f [0], f [1], f [2]⟩
  assemble_eq f v h := by
    rw [h [0] (by decide), h [1] (by decide), h [2] (by decide)]
    rfl

/-- a quaternion too, its real part first, -/
def quaternion : Layout α (Quaternion α) where
  extents := [4]
  part q k := match k.headD 0 with
    | 0 => q.w
    | 1 => q.x
    | 2 => q.y
    | _ => q.z
  assemble f := ⟨f [0], f [1], f [2], f [3]⟩
  assemble_eq f q h := by
    rw [h [0] (by decide), h [1] (by decide), h [2] (by decide), h [3] (by decide)]
    rfl

/-- a matrix along two, its columns along the last, -/
def matrix : Layout α (Mat3 α) where
  extents := [3, 3]
  part m k := component (match k.getD 1 0 with
    | 0 => m.x
    | 1 => m.y
    | _ => m.z) (k.headD 0)
  assemble f := ⟨⟨f [0, 0], f [1, 0], f [2, 0]⟩, ⟨f [0, 1], f [1, 1], f [2, 1]⟩,
    ⟨f [0, 2], f [1, 2], f [2, 2]⟩⟩
  assemble_eq f m h := by
    rw [h [0, 0] (by decide), h [1, 0] (by decide), h [2, 0] (by decide), h [0, 1] (by decide),
      h [1, 1] (by decide), h [2, 1] (by decide), h [0, 2] (by decide), h [1, 2] (by decide),
      h [2, 2] (by decide)]
    rfl

/-- The entry of a row of a number. -/
def rowEntry (r : Row4 α) : Nat → α
  | 0 => r.x
  | 1 => r.y
  | 2 => r.z
  | _ => r.w

/-- and a frame too. -/
def frame : Layout α (Frame α) where
  extents := [4, 4]
  part t k := rowEntry (match k.getD 1 0 with
    | 0 => t.x
    | 1 => t.y
    | 2 => t.z
    | _ => t.w) (k.headD 0)
  assemble f := ⟨⟨f [0, 0], f [1, 0], f [2, 0], f [3, 0]⟩, ⟨f [0, 1], f [1, 1], f [2, 1], f [3, 1]⟩,
    ⟨f [0, 2], f [1, 2], f [2, 2], f [3, 2]⟩, ⟨f [0, 3], f [1, 3], f [2, 3], f [3, 3]⟩⟩
  assemble_eq f t h := by
    rw [h [0, 0] (by decide), h [1, 0] (by decide), h [2, 0] (by decide), h [3, 0] (by decide),
      h [0, 1] (by decide), h [1, 1] (by decide), h [2, 1] (by decide), h [3, 1] (by decide),
      h [0, 2] (by decide), h [1, 2] (by decide), h [2, 2] (by decide), h [3, 2] (by decide),
      h [0, 3] (by decide), h [1, 3] (by decide), h [2, 3] (by decide), h [3, 3] (by decide)]
    rfl

end Layout

/-! ### What a grid holds -/

namespace Grid

variable {α β γ δ : Type}

/-- Two steps that both succeed, one after the other. -/
theorem bind_eq_some {x : Option β} {y : β} {f : β → Option γ} {z : γ} (hx : x = some y)
    (hf : f y = some z) : x >>= f = some z := by
  rw [hx]
  exact hf

/-- **A grid that holds a thing at every index of a batch.** -/
structure Holds (l : Layout α β) (g : Grid α) (s : List Nat) (F : List Nat → β) : Prop where
  extents : g.extents = l.extents ++ s
  entry : ∀ k i, IsWithin l.extents k → IsWithin s i → g.entry (k ++ i) = l.part (F i) k

section Operations

variable {l : Layout α β} {m : Layout α γ} {n : Layout α δ} {a b : Grid α} {s t u : List Nat}
  {F : List Nat → β} {G : List Nat → γ}

/-- A function of every entry is done to what a grid holds. -/
theorem Holds.map (h : Holds l a s F) {f : α → α} {op : β → γ} (hl : m.extents = l.extents)
    (hparts : ∀ x k, IsWithin l.extents k → m.part (op x) k = f (l.part x k)) :
    Holds m (a.map f) s fun i => op (F i) where
  extents := h.extents.trans (by rw [hl])
  entry k i hk hi := by
    rw [hl] at hk
    rw [hparts _ k hk, ← h.entry k i hk hi]
    rfl

/-- **Arithmetic between two grids** is done between what they hold, where that can be
brought together cell by cell. -/
theorem Holds.zipWith? (ha : Holds l a s F) (hb : Holds m b t G) {f : α → α → α}
    {H : List Nat → δ} (hlength : l.extents.length = m.extents.length)
    (hcells : commonReversed? l.extents m.extents = some n.extents)
    (hu : commonReversed? s t = some u)
    (hparts : ∀ i k, IsWithin u i → IsWithin n.extents k →
      n.part (H i) k = f (l.part (F (source s i)) (source l.extents k))
        (m.part (G (source t i)) (source m.extents k))) :
    ∃ c, Grid.zipWith? f a b = some c ∧ Holds n c u H := by
  have hcommon := commonReversed?_append hlength hcells hu
  have hcells' : commonReversed? m.extents l.extents = some n.extents := by
    rw [commonReversed?_comm, hcells]
  have hu' : commonReversed? t s = some u := by rw [commonReversed?_comm, hu]
  refine ⟨_, by rw [Grid.zipWith?, ha.extents, hb.extents, hcommon]; rfl, rfl, ?_⟩
  intro k i hk hi
  have hn : n.extents.length = l.extents.length := by
    rw [length_of_commonReversed? hcells, hlength, Nat.max_self]
  have hkl : k.length = l.extents.length := hk.length_eq.trans hn
  rw [hparts i k hi hk, ← ha.entry _ _ (hk.source hcells) (hi.source hu),
    ← hb.entry _ _ (hk.source hcells') (hi.source hu'), ← source_append hkl,
    ← source_append (hkl.trans hlength), ← ha.extents, ← hb.extents]

/-- What a grid holds at indices of its batch is all that counts. -/
theorem Holds.congr (h : Holds l a s F) {F' : List Nat → β} (hF : ∀ i, IsWithin s i → F i = F' i) :
    Holds l a s F' where
  extents := h.extents
  entry k i hk hi := by rw [← hF i hi, h.entry k i hk hi]

/-- A grid repeated over a larger batch holds what it held. -/
theorem Holds.spread? (h : Holds l a s F) (hu : commonReversed? s u = some u) :
    ∃ c, Grid.spread? (l.extents ++ u) a = some c ∧ Holds l c u fun i => F (source s i) := by
  have hcommon : commonReversed? a.extents (l.extents ++ u) = some (l.extents ++ u) := by
    rw [h.extents]
    exact commonReversed?_append rfl (commonReversed?_self _) hu
  refine ⟨_, if_pos hcommon, rfl, fun k i hk hi => ?_⟩
  change a.entry (source a.extents (k ++ i)) = _
  rw [h.extents, source_append hk.length_eq, source_eq_self hk, h.entry k _ hk (hi.source hu)]

/-- A dimension of extent one changes nothing. -/
theorem Holds.deepen {depth : Nat} {X : List Nat → α} (h : Holds (.lone depth) a s X) :
    Holds (.lone (depth + 1)) a.deepen s X where
  extents := congrArg (1 :: ·) h.extents
  entry k i hk hi := by
    cases k with
    | nil => exact hk.elim
    | cons c k => exact h.entry k i hk.2 hi

/-! ### Things along one dimension -/

section Rows

variable {width : Nat}

/-- An index of one dimension. -/
theorem isWithin_singleton {c : Nat} : IsWithin [width] [c] ↔ c < width :=
  ⟨fun h => h.1, fun h => ⟨h, trivial⟩⟩

theorem exists_of_isWithin_singleton {k : List Nat} (h : IsWithin [width] k) :
    ∃ c, k = [c] ∧ c < width := by
  match k, h with
  | [c], h => exact ⟨c, rfl, h.1⟩

/-- One component is taken of everything a grid holds. -/
theorem Holds.cut_only (h : Holds l a s F) (hl : l.extents = [width]) {j : Nat} (hj : j < width)
    {f : β → α} (hf : ∀ x, l.part x [j] = f x) :
    Holds (.lone 0) (a.cut [.only j]) s fun i => f (F i) := by
  have hextents : a.extents = width :: s := by rw [h.extents, hl, List.singleton_append]
  constructor
  · rw [Grid.cut, hextents]
    rfl
  · intro k i hk hi
    obtain rfl := List.length_eq_zero_iff.1 hk.length_eq
    have hindex : Cut.index [.only j] a.extents i = [j] ++ i := by
      rw [hextents, Cut.index, Nat.min_eq_left (Nat.le_sub_one_of_lt hj)]
      rfl
    change a.entry (Cut.index [.only j] a.extents i) = f (F i)
    rw [hindex, h.entry [j] i (hl ▸ isWithin_singleton.2 hj) hi, hf]

variable [Scalar α]

/-- The lengths of a grid are the lengths of what it holds. -/
theorem Holds.norms (h : Holds l a s F) (hl : l.extents = [width]) {length : β → α}
    (hlength : ∀ x, length x = Scalar.sqrt (total ((List.range width).map fun c =>
      l.part x [c] * l.part x [c]))) :
    Holds (.lone 1) a.norms s fun i => length (F i) := by
  have hextents : a.extents = width :: s := by rw [h.extents, hl, List.singleton_append]
  constructor
  · rw [Grid.norms, hextents]
    rfl
  · intro k i hk hi
    obtain ⟨c, rfl, -⟩ := exists_of_isWithin_singleton hk
    rw [Grid.norms, hextents, hlength]
    change Scalar.sqrt (total ((List.range width).map fun c => a.entry ([c] ++ i) * a.entry ([c] ++ i))) = _
    refine congrArg (fun xs => Scalar.sqrt (total xs)) (List.map_congr_left fun c hc => ?_)
    rw [h.entry [c] i (hl ▸ isWithin_singleton.2 (List.mem_range.1 hc)) hi]

/-- A grid divided by its lengths holds what it held, divided by its length. -/
theorem Holds.unit? (h : Holds l a s F) (hl : l.extents = [width]) {length : β → α} {unit : β → β}
    (hlength : ∀ x, length x = Scalar.sqrt (total ((List.range width).map fun c =>
      l.part x [c] * l.part x [c])))
    (hunit : ∀ x c, c < width → l.part (unit x) [c] = l.part x [c] / length x) :
    ∃ c, a.unit? = some c ∧ Holds l c s fun i => unit (F i) := by
  have hcells : commonReversed? l.extents (Layout.lone 1 : Layout α α).extents = some l.extents := by
    rw [hl]
    exact commonReversed?_cons_eq_some_iff.2 ⟨[], rfl, Or.inr (Or.inr rfl), by grind⟩
  refine h.zipWith? (h.norms hl hlength) (by rw [hl]; rfl) hcells (commonReversed?_self s) ?_
  intro i k hi hk
  rw [source_eq_self hi, source_eq_self hk]
  rw [hl] at hk
  obtain ⟨c, rfl, hc⟩ := exists_of_isWithin_singleton hk
  exact hunit (F i) c hc

end Rows

/-- Arithmetic between numbers of one batch. -/
theorem Holds.pair {X Y : List Nat → α} (ha : Holds (.lone 0) a s X) (hb : Holds (.lone 0) b s Y)
    (f : α → α → α) :
    ∃ c, Grid.zipWith? f a b = some c ∧ Holds (.lone 0) c s fun i => f (X i) (Y i) := by
  refine ha.zipWith? hb rfl rfl (commonReversed?_self s) fun i k hi hk => ?_
  rw [source_eq_self hi]
  rfl

/-! ### Side by side -/

/-- Grids of the same extents can be stacked. -/
theorem stack?_three {behind : Nat} {c : Grid α} (hb : b.extents = a.extents)
    (hc : c.extents = a.extents) :
    stack? behind [a, b, c] = some ⟨a.extents.insertIdx behind 3, fun i =>
      ([a, b, c].getD (i.getD behind 0) a).entry (i.eraseIdx behind)⟩ := by
  refine if_pos fun g hg => ?_
  rcases List.mem_cons.1 hg with rfl | hg
  · exact hb
  · rw [List.mem_singleton.1 hg, hc]

/-- Three grids of numbers side by side hold vectors, -/
theorem Holds.row {c : Grid α} {X Y Z : List Nat → α} (ha : Holds (.lone 0) a s X)
    (hb : Holds (.lone 0) b s Y) (hc : Holds (.lone 0) c s Z) :
    ∃ g, stack? 0 [a, b, c] = some g ∧ Holds .vector g s fun i => ⟨X i, Y i, Z i⟩ := by
  refine ⟨_, stack?_three (hb.extents.trans ha.extents.symm) (hc.extents.trans ha.extents.symm),
    congrArg (3 :: ·) ha.extents, fun k i hk hi => ?_⟩
  obtain ⟨j, rfl, hj⟩ := exists_of_isWithin_singleton hk
  match j, hj with
  | 0, _ => exact ha.entry [] i trivial hi
  | 1, _ => exact hb.entry [] i trivial hi
  | 2, _ => exact hc.entry [] i trivial hi

/-- and three grids of vectors, one dimension from the last, hold matrices. -/
theorem Holds.rows {c : Grid α} {X Y Z : List Nat → Vec3 α} (ha : Holds .vector a s X)
    (hb : Holds .vector b s Y) (hc : Holds .vector c s Z) :
    ∃ g, stack? 1 [a, b, c] = some g ∧ Holds .matrix g s fun i => ⟨X i, Y i, Z i⟩ := by
  refine ⟨_, stack?_three (hb.extents.trans ha.extents.symm) (hc.extents.trans ha.extents.symm),
    ?_, fun k i hk hi => ?_⟩
  · rw [ha.extents]
    rfl
  · match k, hk with
    | [c, 0], hk => exact ha.entry [c] i ⟨hk.1, trivial⟩ hi
    | [c, 1], hk => exact hb.entry [c] i ⟨hk.1, trivial⟩ hi
    | [c, 2], hk => exact hc.entry [c] i ⟨hk.1, trivial⟩ hi

/-! ### Products -/

variable [Scalar α]

/-- Products of matrices are products of what the grids hold. -/
theorem Holds.matmul? {size : Nat} {F' : List Nat → β} (ha : Holds l a s F) (hb : Holds l b t F')
    (hl : l.extents = [size, size]) (hu : commonReversed? s t = some u) {mul : β → β → β}
    (hmul : ∀ x y c r, c < size → r < size →
      l.part (mul x y) [c, r] =
        total ((List.range size).map fun k => l.part x [k, r] * l.part y [c, k])) :
    ∃ g, a.matmul? b = some g ∧ Holds l g u fun i => mul (F (source s i)) (F' (source t i)) := by
  have hwithin : ∀ c r, c < size → r < size → IsWithin l.extents [c, r] :=
    fun c r hc hr => hl ▸ ⟨hc, hr, trivial⟩
  have hu' : commonReversed? t s = some u := by rw [commonReversed?_comm, hu]
  have hmatmul : a.matmul? b = some ⟨size :: size :: u, dot size s t a b⟩ := by
    rw [Grid.matmul?, ha.extents, hb.extents, hl]
    simp only [List.cons_append, List.nil_append, hu, if_true]
    rfl
  refine ⟨_, hmatmul, by rw [hl]; rfl, fun k i hk hi => ?_⟩
  rw [hl] at hk
  match k, hk with
  | [c, r], ⟨hc, hr, _⟩ =>
    rw [hmul _ _ c r hc hr]
    refine congrArg total (List.map_congr_left fun k hk => ?_)
    have hk := List.mem_range.1 hk
    rw [← ha.entry _ _ (hwithin k r hk hr) (hi.source hu),
      ← hb.entry _ _ (hwithin c k hc hk) (hi.source hu')]
    rfl

end Operations

/-! ### The functions of rotations -/

variable [Scalar α] {a b : Grid α} {s t u : List Nat}

/-- The entries of a sum of matrices, -/
theorem part_add (m m' : Mat3 α) (k : List Nat) (hk : IsWithin [3, 3] k) :
    Layout.matrix.part (m + m') k = Layout.matrix.part m k + Layout.matrix.part m' k := by
  match k, hk with
  | [0, 0], _ | [1, 0], _ | [2, 0], _ | [0, 1], _ | [1, 1], _ | [2, 1], _ | [0, 2], _ | [1, 2], _
  | [2, 2], _ => rfl

/-- of a multiple, -/
theorem part_smul (x : α) (m : Mat3 α) (k : List Nat) (hk : IsWithin [3, 3] k) :
    Layout.matrix.part (Mat3.smul x m) k = x * Layout.matrix.part m k := by
  match k, hk with
  | [0, 0], _ | [1, 0], _ | [2, 0], _ | [0, 1], _ | [1, 1], _ | [2, 1], _ | [0, 2], _ | [1, 2], _
  | [2, 2], _ => rfl

/-- and of a product of matrices. -/
theorem part_matrix_mul (m m' : Mat3 α) (c r : Nat) (hc : c < 3) (hr : r < 3) :
    Layout.matrix.part (m * m') [c, r] = total ((List.range 3).map fun k =>
      Layout.matrix.part m [k, r] * Layout.matrix.part m' [c, k]) := by
  match c, hc, r, hr with
  | 0, _, 0, _ | 1, _, 0, _ | 2, _, 0, _ | 0, _, 1, _ | 1, _, 1, _ | 2, _, 1, _ | 0, _, 2, _
  | 1, _, 2, _ | 2, _, 2, _ => rfl

/-- The identity, held by itself. -/
theorem holds_eye : Holds .matrix (eye 3 : Grid α) [] fun _ => 1 where
  extents := rfl
  entry k i hk hi := by
    obtain rfl := List.length_eq_zero_iff.1 hi.length_eq
    match k, hk with
    | [0, 0], _ | [1, 0], _ | [2, 0], _ | [0, 1], _ | [1, 1], _ | [2, 1], _ | [0, 2], _
    | [1, 2], _ | [2, 2], _ => rfl

/-- **The cross products by what a grid holds.** -/
theorem Holds.skew? {V : List Nat → Vec3 α} (h : Holds .vector a s V) :
    ∃ g, a.skew? = some g ∧ Holds .matrix g s fun i => (V i).skew := by
  have hzeros : Holds (.lone 0) (fill a.extents.tail 0) s fun _ => (0 : α) :=
    ⟨by rw [fill, h.extents]; rfl, fun _ _ _ _ => rfl⟩
  have hx : Holds (.lone 0) (a.cut [.only 0]) s fun i => (V i).x :=
    h.cut_only rfl (by decide) fun _ => rfl
  have hy : Holds (.lone 0) (a.cut [.only 1]) s fun i => (V i).y :=
    h.cut_only rfl (by decide) fun _ => rfl
  have hz : Holds (.lone 0) (a.cut [.only 2]) s fun i => (V i).z :=
    h.cut_only rfl (by decide) fun _ => rfl
  have hneg : ∀ {c : Grid α} {X : List Nat → α}, Holds (.lone 0) c s X →
      Holds (.lone 0) (c.map (- ·)) s fun i => -X i :=
    fun hc => hc.map rfl fun _ _ _ => rfl
  obtain ⟨x, hrow, hheldx⟩ := hzeros.row (hneg hz) hy
  obtain ⟨y, hrow', hheldy⟩ := hz.row hzeros (hneg hx)
  obtain ⟨z, hrow'', hheldz⟩ := (hneg hy).row hx hzeros
  obtain ⟨g, hrows, hheld⟩ := hheldx.rows hheldy hheldz
  exact ⟨g, bind_eq_some hrow <| bind_eq_some hrow' <| bind_eq_some hrow'' hrows, hheld⟩

/-- **The rotations about the axes that a grid holds by the angles that another holds.** -/
theorem Holds.ofAxisAngle? {V : List Nat → Vec3 α} {T : List Nat → α} (h : Holds .vector a s V)
    (h' : Holds (.lone 0) b t T) (hu : commonReversed? s t = some u) :
    ∃ g, a.ofAxisAngle? b = some g ∧
      Holds .matrix g u fun i => Mat3.ofAxisAngle (V (source s i)) (T (source t i)) := by
  have hu' : commonReversed? t s = some u := by rw [commonReversed?_comm, hu]
  have hnorm : ∀ v : Vec3 α, v.norm = Scalar.sqrt (total ((List.range 3).map fun c =>
      Layout.vector.part v [c] * Layout.vector.part v [c])) := fun _ => rfl
  have hunit : ∀ (v : Vec3 α) c, c < 3 →
      Layout.vector.part v.unit [c] = Layout.vector.part v [c] / v.norm := by
    intro v c hc
    match c, hc with
    | 0, _ | 1, _ | 2, _ => rfl
  obtain ⟨axis, haxis, hheld⟩ := h.unit? rfl hnorm hunit
  obtain ⟨k, hk, hskew⟩ := hheld.skew?
  obtain ⟨one, hone, hidentity⟩ := (holds_eye (α := α)).spread? (rfl : commonReversed? [] s = some s)
  have hangle := h'.deepen.deepen
  have hsin : Holds (.lone 2) (b.deepen.deepen.map Scalar.sin) t fun i => Scalar.sin (T i) :=
    hangle.map rfl fun _ _ _ => rfl
  have hcos : Holds (.lone 2) (b.deepen.deepen.map fun t => 1 - Scalar.cos t) t
      fun i => 1 - Scalar.cos (T i) :=
    hangle.map rfl fun _ _ _ => rfl
  obtain ⟨square, hsquare, hheldsquare⟩ :=
    hskew.matmul? hskew rfl (commonReversed?_self s) part_matrix_mul
  -- The three terms: the second and the third are over the common batch, the first is not.
  have hscale : ∀ {X : List Nat → α} {c m : Grid α} {M : List Nat → Mat3 α},
      Holds (.lone 2) c t X → Holds .matrix m s M → ∃ g, Grid.zipWith? (· * ·) c m = some g ∧
        Holds .matrix g u fun i => Mat3.smul (X (source t i)) (M (source s i)) := by
    intro X c m M hc hm
    refine hc.zipWith? hm rfl rfl hu' fun i k hi hk => ?_
    rw [source_eq_self hk]
    exact part_smul _ _ k hk
  have hadd : ∀ {c d : Grid α} {r : List Nat} {M N : List Nat → Mat3 α},
      commonReversed? r u = some u → Holds .matrix c r M → Holds .matrix d u N →
      ∃ g, Grid.zipWith? (· + ·) c d = some g ∧
        Holds .matrix g u fun i => M (source r i) + N i := by
    intro c d r M N hr hc hd
    refine hc.zipWith? hd rfl rfl hr fun i k hi hk => ?_
    rw [source_eq_self hk, source_eq_self hi]
    exact part_add _ _ k hk
  obtain ⟨first, hfirst, hheldfirst⟩ := hscale hsin hskew
  obtain ⟨second, hsecond, hheldsecond⟩ := hscale hcos hheldsquare
  obtain ⟨sum, hsum, hheldsum⟩ := hadd (commonReversed?_absorb hu) hidentity hheldfirst
  obtain ⟨g, hg, hheldg⟩ := hadd (commonReversed?_self u) hheldsum hheldsecond
  refine ⟨g, ?_, hheldg.congr fun i hi => ?_⟩
  · rw [← hskew.extents] at hone
    exact bind_eq_some haxis <| bind_eq_some hk <| bind_eq_some hone <| bind_eq_some hfirst <|
      bind_eq_some hsquare <| bind_eq_some hsecond <| bind_eq_some hsum hg
  · have hself := source_eq_self (hi.source hu)
    simp only [source_eq_self hi, hself]
    rfl

/-- The matrices of the quaternions of length one whose components grids hold. -/
theorem exists_toMat? {w x y z : Grid α} {Q : List Nat → Quaternion α}
    (hw : Holds (.lone 0) w s fun i => (Q i).w) (hx : Holds (.lone 0) x s fun i => (Q i).x)
    (hy : Holds (.lone 0) y s fun i => (Q i).y) (hz : Holds (.lone 0) z s fun i => (Q i).z) :
    ∃ g, Grid.toMat? w x y z = some g ∧ Holds .matrix g s fun i => (Q i).toMat := by
  obtain ⟨xx, hxx, hxx'⟩ := hx.pair hx (· * ·)
  obtain ⟨yy, hyy, hyy'⟩ := hy.pair hy (· * ·)
  obtain ⟨zz, hzz, hzz'⟩ := hz.pair hz (· * ·)
  obtain ⟨wx, hwx, hwx'⟩ := hw.pair hx (· * ·)
  obtain ⟨wy, hwy, hwy'⟩ := hw.pair hy (· * ·)
  obtain ⟨wz, hwz, hwz'⟩ := hw.pair hz (· * ·)
  obtain ⟨xy, hxy, hxy'⟩ := hx.pair hy (· * ·)
  obtain ⟨xz, hxz, hxz'⟩ := hx.pair hz (· * ·)
  obtain ⟨yz, hyz, hyz'⟩ := hy.pair hz (· * ·)
  have htwice : ∀ {c : Grid α} {X : List Nat → α}, Holds (.lone 0) c s X →
      Holds (.lone 0) (c.map ((1 + 1) * ·)) s fun i => (1 + 1) * X i :=
    fun hc => hc.map rfl fun _ _ _ => rfl
  have hrest : ∀ {c : Grid α} {X : List Nat → α}, Holds (.lone 0) c s X →
      Holds (.lone 0) (c.map (1 - (1 + 1) * ·)) s fun i => 1 - (1 + 1) * X i :=
    fun hc => hc.map rfl fun _ _ _ => rfl
  -- The nine entries, row by row.
  obtain ⟨a₀, ha₀, ha₀'⟩ := hyy'.pair hzz' (· + ·)
  obtain ⟨a₁, ha₁, ha₁'⟩ := hxy'.pair hwz' (· - ·)
  obtain ⟨a₂, ha₂, ha₂'⟩ := hxz'.pair hwy' (· + ·)
  obtain ⟨b₀, hb₀, hb₀'⟩ := hxy'.pair hwz' (· + ·)
  obtain ⟨b₁, hb₁, hb₁'⟩ := hxx'.pair hzz' (· + ·)
  obtain ⟨b₂, hb₂, hb₂'⟩ := hyz'.pair hwx' (· - ·)
  obtain ⟨c₀, hc₀, hc₀'⟩ := hxz'.pair hwy' (· - ·)
  obtain ⟨c₁, hc₁, hc₁'⟩ := hyz'.pair hwx' (· + ·)
  obtain ⟨c₂, hc₂, hc₂'⟩ := hxx'.pair hyy' (· + ·)
  obtain ⟨r, hr, hr'⟩ := (hrest ha₀').row (htwice ha₁') (htwice ha₂')
  obtain ⟨r', hr₁, hr₁'⟩ := (htwice hb₀').row (hrest hb₁') (htwice hb₂')
  obtain ⟨r'', hr₂, hr₂'⟩ := (htwice hc₀').row (htwice hc₁') (hrest hc₂')
  obtain ⟨g, hg, hheld⟩ := hr'.rows hr₁' hr₂'
  refine ⟨g, ?_, hheld⟩
  refine bind_eq_some hxx <| bind_eq_some hyy <| bind_eq_some hzz <| bind_eq_some hwx <|
    bind_eq_some hwy <| bind_eq_some hwz <| bind_eq_some hxy <| bind_eq_some hxz <|
    bind_eq_some hyz ?_
  refine bind_eq_some ha₀ <| bind_eq_some ha₁ <| bind_eq_some ha₂ <| bind_eq_some hr ?_
  refine bind_eq_some hb₀ <| bind_eq_some hb₁ <| bind_eq_some hb₂ <| bind_eq_some hr₁ ?_
  exact bind_eq_some hc₀ <| bind_eq_some hc₁ <| bind_eq_some hc₂ <| bind_eq_some hr₂ hg

/-- **The rotations of the quaternions that a grid holds.** -/
theorem Holds.ofQuaternion? {Q : List Nat → Quaternion α} (h : Holds .quaternion a s Q) :
    ∃ g, a.ofQuaternion? = some g ∧ Holds .matrix g s fun i => Mat3.ofQuaternion (Q i) := by
  have hnorm : ∀ q : Quaternion α, q.norm = Scalar.sqrt (total ((List.range 4).map fun c =>
      Layout.quaternion.part q [c] * Layout.quaternion.part q [c])) := fun _ => rfl
  have hunit : ∀ (q : Quaternion α) c, c < 4 →
      Layout.quaternion.part q.unit [c] = Layout.quaternion.part q [c] / q.norm := by
    intro q c hc
    match c, hc with
    | 0, _ | 1, _ | 2, _ | 3, _ => rfl
  obtain ⟨q, hq, hheld⟩ := h.unit? rfl hnorm hunit
  obtain ⟨g, hg, hmat⟩ := exists_toMat?
    (hheld.cut_only rfl (by decide : 0 < 4) fun _ => rfl)
    (hheld.cut_only rfl (by decide : 1 < 4) fun _ => rfl)
    (hheld.cut_only rfl (by decide : 2 < 4) fun _ => rfl)
    (hheld.cut_only rfl (by decide : 3 < 4) fun _ => rfl)
  have hwidth : q.extents.head? = some 4 := by
    rw [hheld.extents]
    rfl
  exact ⟨g, bind_eq_some hq ((if_pos hwidth).trans hg), hmat⟩

/-! ### The functions of frames -/

/-- The entries of a frame are those of its rotation -/
theorem part_ofParts_of_isWithin (p : Vec3 α) (m : Mat3 α) (k : List Nat) (hk : IsWithin [3, 3] k) :
    Layout.frame.part (Frame.ofParts p m) k = Layout.matrix.part m k := by
  match k, hk with
  | [0, 0], _ | [1, 0], _ | [2, 0], _ | [0, 1], _ | [1, 1], _ | [2, 1], _ | [0, 2], _ | [1, 2], _
  | [2, 2], _ => rfl

/-- and, in the last column, of its position. -/
theorem part_ofParts_last (p : Vec3 α) (m : Mat3 α) {c : Nat} (hc : c < 3) :
    Layout.frame.part (Frame.ofParts p m) [3, c] = Layout.vector.part p [c] := by
  match c, hc with
  | 0, _ | 1, _ | 2, _ => rfl

omit [Scalar α] in
/-- A part of a grid is written anew, and the rest stays. -/
theorem write?_of_spread? {cuts : List Cut} {c d : Grid α}
    (h : c.spread? (Cut.extents cuts a.extents) = some d) :
    a.write? cuts c =
      some ⟨a.extents, fun i => (Cut.within? cuts i).elim (a.entry i) d.entry⟩ :=
  bind_eq_some h rfl

/-- **The frames at the positions that a grid holds, with the rotations that another
holds.** -/
theorem Holds.ofParts? {P : List Nat → Vec3 α} {R : List Nat → Mat3 α} (hp : Holds .vector a s P)
    (hr : Holds .matrix b t R) (hu : commonReversed? s t = some u) :
    ∃ g, a.ofParts? b = some g ∧
      Holds .frame g u fun i => Frame.ofParts (P (source s i)) (R (source t i)) := by
  have hu' : commonReversed? t u = some u :=
    commonReversed?_absorb (by rw [commonReversed?_comm, hu])
  have hbatch : commonReversed? (a.extents.drop 1) (b.extents.drop 2) = some u := by
    rw [hp.extents, hr.extents]
    exact hu
  obtain ⟨p, hspread, hp'⟩ := hp.spread? (commonReversed?_absorb hu)
  obtain ⟨r, hspread', hr'⟩ := hr.spread? hu'
  obtain ⟨p', hwrite, hp''⟩ := hp'.spread? (commonReversed?_self u)
  obtain ⟨r', hwrite', hr''⟩ := hr'.spread? (commonReversed?_self u)
  have hone : Holds (.lone 0) (fill [] 1) [] fun _ => (1 : α) := ⟨rfl, fun _ _ _ _ => rfl⟩
  obtain ⟨one, hwrite'', hone'⟩ := hone.spread? (rfl : commonReversed? [] u = some u)
  refine ⟨_, bind_eq_some hbatch <| bind_eq_some hspread <| bind_eq_some hspread' <|
    bind_eq_some (write?_of_spread? hwrite') <| bind_eq_some (write?_of_spread? hwrite) <|
    write?_of_spread? hwrite'', rfl, fun k i hk hi => ?_⟩
  -- What is written last counts, so each entry is looked up in the part that it lies in.
  have hturned : ∀ k, IsWithin [3, 3] k →
      Layout.frame.part (Frame.ofParts (P (source s i)) (R (source t i))) k = r'.entry (k ++ i) := by
    intro k hk
    rw [hr''.entry k i hk hi, source_eq_self hi, part_ofParts_of_isWithin _ _ k hk]
  have hplaced : ∀ c, c < 3 →
      Layout.frame.part (Frame.ofParts (P (source s i)) (R (source t i))) [3, c] =
        p'.entry ([c] ++ i) := by
    intro c hc
    rw [hp''.entry [c] i (isWithin_singleton.2 hc) hi, source_eq_self hi, part_ofParts_last _ _ hc]
  match k, hk with
  | [0, 0], _ | [1, 0], _ | [2, 0], _ | [0, 1], _ | [1, 1], _ | [2, 1], _ | [0, 2], _ | [1, 2], _
  | [2, 2], _ => exact (hturned [_, _] (by decide)).symm
  | [3, 0], _ | [3, 1], _ | [3, 2], _ => exact (hplaced _ (by decide)).symm
  | [0, 3], _ | [1, 3], _ | [2, 3], _ => rfl
  | [3, 3], _ => exact hone'.entry [] i trivial hi

omit [Scalar α] in
/-- **The positions of the frames that a grid holds.** -/
theorem Holds.position {T : List Nat → Frame α} (h : Holds .frame a s T) :
    Holds .vector a.position s fun i => (T i).position := by
  constructor
  · rw [Grid.position, Grid.cut, h.extents]
    rfl
  · intro k i hk hi
    obtain ⟨c, rfl, hc⟩ := exists_of_isWithin_singleton hk
    have hentry := h.entry [3, c] i ⟨by decide, Nat.lt_succ_of_lt hc, trivial⟩ hi
    change a.entry (Cut.index [.only 3, .below 3] a.extents ([c] ++ i)) = _
    rw [h.extents]
    refine hentry.trans ?_
    match c, hc with
    | 0, _ | 1, _ | 2, _ => rfl

omit [Scalar α] in
/-- **The rotations of the frames that a grid holds.** -/
theorem Holds.rotation {T : List Nat → Frame α} (h : Holds .frame a s T) :
    Holds .matrix a.rotation s fun i => (T i).rotation := by
  constructor
  · rw [Grid.rotation, Grid.cut, h.extents]
    rfl
  · intro k i hk hi
    match k, hk with
    | [c, r], ⟨hc, hr, _⟩ =>
      have hentry := h.entry [c, r] i ⟨Nat.lt_succ_of_lt hc, Nat.lt_succ_of_lt hr, trivial⟩ hi
      change a.entry (Cut.index [.below 3, .below 3] a.extents ([c, r] ++ i)) = _
      rw [h.extents]
      refine hentry.trans ?_
      match c, hc, r, hr with
      | 0, _, 0, _ | 1, _, 0, _ | 2, _, 0, _ | 0, _, 1, _ | 1, _, 1, _ | 2, _, 1, _ | 0, _, 2, _
      | 1, _, 2, _ | 2, _, 2, _ => rfl

/-- The entries of a product of frames. -/
theorem part_frame_mul (f f' : Frame α) (c r : Nat) (hc : c < 4) (hr : r < 4) :
    Layout.frame.part (f * f') [c, r] = total ((List.range 4).map fun k =>
      Layout.frame.part f [k, r] * Layout.frame.part f' [c, k]) := by
  match c, hc, r, hr with
  | 0, _, 0, _ | 1, _, 0, _ | 2, _, 0, _ | 3, _, 0, _ | 0, _, 1, _ | 1, _, 1, _ | 2, _, 1, _
  | 3, _, 1, _ | 0, _, 2, _ | 1, _, 2, _ | 2, _, 2, _ | 3, _, 2, _ | 0, _, 3, _ | 1, _, 3, _
  | 2, _, 3, _ | 3, _, 3, _ => rfl

end Grid

end Linkage
