/-!
# Shapes

The shape of a block is the list of its extents, one for each dimension. Two shapes are
brought to a common one from their ends; where one is shorter, or has the extent one, the
other decides, and where the extents differ otherwise the shapes do not go together.

## Main definitions

* `Linkage.indices`, `Linkage.offset?`: the indices of a shape in order, and the place of
  one of them.
* `Linkage.commonShape?`: the shape of two blocks taken together, with
  `Linkage.sourceIndex` saying which index of a block stands at an index of that shape.
* `Linkage.commonReversed?`, `Linkage.source`, `Linkage.IsWithin`: the same for extents and
  indices that are given from their ends, as they are compared.
-/

namespace Linkage

/-! ### Indices -/

/-- The number of indices of a shape. -/
def extent : List Nat → Nat
  | [] => 1
  | n :: shape => n * extent shape

/-- **The indices of a shape**, the last one running fastest. -/
def indices : List Nat → List (List Nat)
  | [] => [[]]
  | n :: shape => (List.range n).flatMap fun k => (indices shape).map (k :: ·)

/-- The place of an index among the indices of its shape, if it is one of them. -/
def offset? : List Nat → List Nat → Option Nat
  | [], [] => some 0
  | n :: shape, k :: index =>
    if k < n then (offset? shape index).map (k * extent shape + ·) else none
  | _, _ => none

/-- A shape has as many indices as its extent says. -/
@[simp]
theorem length_indices (shape : List Nat) : (indices shape).length = extent shape := by
  induction shape with
  | nil => rfl
  | cons n shape ih =>
    simp [indices, extent, List.length_flatMap, ih, List.map_const']

/-! ### Shapes brought together -/

/-- The common shape of two, both given from their ends. -/
def commonReversed? : List Nat → List Nat → Option (List Nat)
  | [], t => some t
  | s, [] => some s
  | m :: s, n :: t => do
    let shape ← commonReversed? s t
    if m = n then return m :: shape
    else if m = 1 then return n :: shape
    else if n = 1 then return m :: shape
    else none

/-- **The common shape of two**, if they go together. -/
def commonShape? (s t : List Nat) : Option (List Nat) :=
  (commonReversed? s.reverse t.reverse).map List.reverse

/-- **The index of a batch that stands at an index of a larger shape**: the leading
dimensions that the batch lacks are dropped, and where its extent is one it has only the
index zero. -/
def sourceIndex (shape index : List Nat) : List Nat :=
  List.zipWith (fun n k => if n = 1 then 0 else k) shape (index.drop (index.length - shape.length))

/-! ### Shapes from their ends -/

/-- The index that stands at an index of a larger block, both given from their ends. -/
def source (extents index : List Nat) : List Nat :=
  List.zipWith (fun n k => if n = 1 then 0 else k) extents index

/-- **An index that lies within some extents**, both given from their ends. -/
def IsWithin : List Nat → List Nat → Prop
  | [], [] => True
  | n :: extents, k :: index => k < n ∧ IsWithin extents index
  | _, _ => False

instance IsWithin.decide : (extents index : List Nat) → Decidable (IsWithin extents index)
  | [], [] => .isTrue trivial
  | n :: extents, k :: index =>
    have := IsWithin.decide extents index
    inferInstanceAs (Decidable (k < n ∧ IsWithin extents index))
  | [], _ :: _ => .isFalse id
  | _ :: _, [] => .isFalse id

theorem IsWithin.length_eq {extents index : List Nat} (h : IsWithin extents index) :
    index.length = extents.length := by
  induction extents generalizing index with
  | nil =>
    cases index with
    | nil => rfl
    | cons k index => exact h.elim
  | cons n extents ih =>
    cases index with
    | nil => exact h.elim
    | cons k index => exact congrArg (· + 1) (ih h.2)

/-- A shape goes together with itself. -/
@[simp]
theorem commonReversed?_self (s : List Nat) : commonReversed? s s = some s := by
  induction s with
  | nil => rfl
  | cons n s ih => simp [commonReversed?, ih]

/-- Which of two shapes comes first makes no difference. -/
theorem commonReversed?_comm (s t : List Nat) : commonReversed? s t = commonReversed? t s := by
  induction s generalizing t with
  | nil => cases t <;> rfl
  | cons m s ih =>
    cases t with
    | nil => rfl
    | cons n t =>
      simp only [commonReversed?, ih t]
      grind

/-- **Two shapes go together dimension by dimension.** -/
theorem commonReversed?_cons_eq_some_iff {m n : Nat} {s t u : List Nat} :
    commonReversed? (m :: s) (n :: t) = some u ↔
      ∃ v, commonReversed? s t = some v ∧ (m = n ∨ m = 1 ∨ n = 1) ∧
        u = (if m = 1 then n else m) :: v := by
  rw [commonReversed?]
  rcases commonReversed? s t with _ | v
  · simp
  · by_cases hmn : m = n
    · subst hmn
      simp [eq_comm]
    · by_cases hm : m = 1
      · subst hm
        simp [hmn, eq_comm]
      · by_cases hn : n = 1
        · simp [hm, hn, eq_comm]
        · simp [hmn, hm, hn]

/-- The common shape has as many dimensions as the longer of the two. -/
theorem length_of_commonReversed? {s t u : List Nat} (h : commonReversed? s t = some u) :
    u.length = max s.length t.length := by
  induction s generalizing t u with
  | nil =>
    obtain rfl := Option.some.inj h
    simp
  | cons m s ih =>
    cases t with
    | nil =>
      obtain rfl : m :: s = u := Option.some.inj h
      simp
    | cons n t =>
      obtain ⟨v, hv, -, rfl⟩ := commonReversed?_cons_eq_some_iff.1 h
      simp [ih hv]

/-- What two shapes have in common goes together with either of them, as it is. -/
theorem commonReversed?_absorb {s t u : List Nat} (h : commonReversed? s t = some u) :
    commonReversed? s u = some u := by
  induction s generalizing t u with
  | nil => rfl
  | cons m s ih =>
    cases t with
    | nil =>
      obtain rfl : m :: s = u := Option.some.inj h
      exact commonReversed?_self _
    | cons n t =>
      obtain ⟨v, hv, hmn, rfl⟩ := commonReversed?_cons_eq_some_iff.1 h
      refine commonReversed?_cons_eq_some_iff.2 ⟨v, ih hv, ?_, ?_⟩
      · grind
      · grind

/-- **Blocks of cells go together as the cells do and as the batches do.** -/
theorem commonReversed?_append {l m n s t u : List Nat} (hlength : l.length = m.length)
    (hcells : commonReversed? l m = some n) (hu : commonReversed? s t = some u) :
    commonReversed? (l ++ s) (m ++ t) = some (n ++ u) := by
  induction l generalizing m n with
  | nil =>
    obtain rfl := List.length_eq_zero_iff.1 hlength.symm
    obtain rfl := Option.some.inj hcells
    exact hu
  | cons a l ih =>
    cases m with
    | nil => cases hlength
    | cons b m =>
      obtain ⟨v, hv, hab, rfl⟩ := commonReversed?_cons_eq_some_iff.1 hcells
      exact commonReversed?_cons_eq_some_iff.2
        ⟨v ++ u, ih (Nat.succ.inj hlength) hv, hab, rfl⟩

theorem source_append {k l : List Nat} (h : k.length = l.length) (s i : List Nat) :
    source (l ++ s) (k ++ i) = source l k ++ source s i :=
  List.zipWith_append h.symm

/-- What stands at an index within the extents is that index. -/
theorem source_eq_self {extents index : List Nat} (h : IsWithin extents index) :
    source extents index = index := by
  induction extents generalizing index with
  | nil => exact (List.length_eq_zero_iff.1 h.length_eq).symm
  | cons n extents ih =>
    cases index with
    | nil => exact h.elim
    | cons k index =>
      have hzero : (if n = 1 then 0 else k) = k := by
        have := h.1
        split <;> omega
      rw [source, List.zipWith_cons_cons, hzero]
      exact congrArg (k :: ·) (ih h.2)

/-- What stands at an index within the common extents lies within those of either. -/
theorem IsWithin.source {s t u index : List Nat} (h : IsWithin u index)
    (hu : commonReversed? s t = some u) : IsWithin s (source s index) := by
  induction s generalizing t u index with
  | nil => trivial
  | cons m s ih =>
    cases t with
    | nil =>
      obtain rfl : m :: s = u := Option.some.inj hu
      rwa [source_eq_self h]
    | cons n t =>
      obtain ⟨v, hv, hmn, rfl⟩ := commonReversed?_cons_eq_some_iff.1 hu
      cases index with
      | nil => exact h.elim
      | cons k index =>
        refine ⟨?_, ih h.2 hv⟩
        have := h.1
        grind

end Linkage
