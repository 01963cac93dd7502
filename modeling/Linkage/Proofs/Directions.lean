import Linkage.Proofs.ConstraintValues
import Linkage.Proofs.Diagnosis
import Linkage.Proofs.Rounding

/-!
# Which axes are directions

A joint that can move turns about its axis or slides along it, so the axis must be a
direction: none of its components what is not a number, and not all of them zero
(`Linkage.Vec3.IsDirection`). The axis of a description is divided by its length, and refused
if that is below a least length. This comparison is the only check there is.

It is enough wherever the length is finite. Then so are the components, each quotient is a
number, and not all of them can be so small as to be rounded to zero: if they were, the
length, which the components bound, would be far below itself. But the length is the square
root of a sum of squares, and need not be finite. What is not a number compares with nothing,
so an axis with such a component passes; and squares that are too large give an infinite
length, by which all that is finite is divided to zero. Both are read without a complaint.

## Main results

* `Linkage.Vec3.isDirection_unit_iff`: a vector that passes is made a direction exactly if its
  length is finite.
* `Linkage.Description.ofText_directions`: the same of all joints of a description.
* `Linkage.Description.not_ofText_directions`: a description with an axis that is none.
-/

namespace Linkage

open Float.Model Float.Model.UnpackedFloat

/-! ### Directions -/

/-- **A direction**: all components are numbers, and not all are zero. -/
def Vec3.IsDirection (v : Vec3 Float) : Prop :=
  (v.x.isNaN = false ∧ v.y.isNaN = false ∧ v.z.isNaN = false) ∧
    ¬((v.x == 0) = true ∧ (v.y == 0) = true ∧ (v.z == 0) = true)

instance (v : Vec3 Float) : Decidable v.IsDirection := inferInstanceAs (Decidable (_ ∧ _))

theorem isFinite_iff {x : Float} : x.isFinite = true ↔ x.toModel.unpack.isFinite = true := Iff.rfl

theorem isNaN_iff {x : Float} : x.isNaN = true ↔ x.toModel.unpack = .notANumber := by
  change x.toModel.unpack.isNaN = true ↔ _
  cases x.toModel.unpack <;> simp [UnpackedFloat.isNaN]

theorem beq_zero_iff {x : Float} : (x == 0) = true ↔ ∃ s, x.toModel.unpack = .zero s := by
  have hzero : (0 : Float).toModel.unpack = .zero .positive := rfl
  change x.toModel.unpack.beq (0 : Float).toModel.unpack = true ↔ _
  rw [hzero]
  rcases x.toModel.unpack with s | _ | s | ⟨s, m, e, hm⟩
  · cases s <;> simp [UnpackedFloat.beq, UnpackedFloat.compare]
  · simp [UnpackedFloat.beq, UnpackedFloat.compare]
  · simp [UnpackedFloat.beq, UnpackedFloat.compare]
  · cases s <;> simp [UnpackedFloat.beq, UnpackedFloat.compare]

/-- Numbers are in order as what is taken out of them is. -/
theorem lt_iff_compare {x y : Float} :
    x < y ↔ x.toModel.unpack.compare y.toModel.unpack = some .lt := by
  change decide (x.toModel < y.toModel) = true ↔ _
  rw [decide_eq_true_iff]
  change (x.toModel.unpack.compare y.toModel.unpack == some .lt) = true ↔ _
  rw [beq_iff_eq]

/-! ### Quotients -/

section Quotients

variable {x n : Float}

/-- A number divided by what is not finite is zero, or not a number. -/
theorem isNaN_or_zero_div (h : ¬n.isFinite = true) :
    (x / n).isNaN = true ∨ ((x / n) == 0) = true := by
  have hdiv : (x / n).toModel.unpack =
    (Float.Model.pack (UnpackedFloat.div .binary64 x.toModel.unpack n.toModel.unpack)).unpack := rfl
  rw [isNaN_iff, beq_zero_iff, hdiv]
  rw [isFinite_iff] at h
  have hnan : (Float.Model.pack .notANumber).unpack = .notANumber := rfl
  cases hn : n.toModel.unpack with
  | zero | finite =>
    rw [hn] at h
    exact absurd rfl h
  | notANumber => cases x.toModel.unpack <;> exact Or.inl hnan
  | infinity s =>
    cases x.toModel.unpack with
    | notANumber | infinity => exact Or.inl hnan
    | zero | finite => exact Or.inr ⟨_, unpack_pack_zero _⟩

variable {s : Sign} {m : Nat} {e : Int} {hm : 0 < m}

/-- A finite number divided by one that is finite and not zero is a number, -/
theorem isNaN_div (hx : x.isFinite = true) (hn : n.toModel.unpack = .finite s m e hm) :
    (x / n).isNaN = false := by
  have hdiv : (x / n).toModel.unpack =
    (Float.Model.pack (UnpackedFloat.div .binary64 x.toModel.unpack n.toModel.unpack)).unpack := rfl
  rw [isFinite_iff] at hx
  rw [← Bool.not_eq_true, isNaN_iff, hdiv, hn]
  rcases hu : x.toModel.unpack with s' | _ | s' | ⟨s', m', e', hm'⟩
  · rw [hu] at hx
    cases hx
  · rw [hu] at hx
    cases hx
  · change (Float.Model.pack (.zero (s' / s))).unpack ≠ _
    rw [unpack_pack_zero]
    exact nofun
  · exact unpack_pack_roundWithAccuracy_ne _ _ _ _

/-- and rounded to zero only if it is far below the other. -/
theorem isBelow_of_div_eq_zero (hx : x.isFinite = true) (hn : n.toModel.unpack = .finite s m e hm)
    (h : ((x / n) == 0) = true) : IsBelow (totalExponent m e - 1001) x := by
  have hdiv : (x / n).toModel.unpack =
    (Float.Model.pack (UnpackedFloat.div .binary64 x.toModel.unpack n.toModel.unpack)).unpack := rfl
  obtain ⟨s'', h⟩ := beq_zero_iff.1 h
  rw [isFinite_iff] at hx
  rw [hdiv, hn] at h
  rw [IsBelow]
  rcases hu : x.toModel.unpack with s' | _ | s' | ⟨s', m', e', hm'⟩
  · rw [hu] at hx
    cases hx
  · rw [hu] at hx
    cases hx
  · exact .zero
  · rw [hu] at h
    refine .finite (isPlaced_of_ofParts hu) ?_
    by_contra hsize
    exact div_ne_zero_of_size hm' hm (by omega) h

end Quotients

/-! ### Lengths -/

section Lengths

variable {v : Vec3 Float} {k : Int}

/-- The components are finite if the length is. -/
theorem isFinite_of_isFinite_norm (h : v.norm.isFinite = true) :
    v.x.isFinite = true ∧ v.y.isFinite = true ∧ v.z.isFinite = true := by
  have hsum : (v.x * v.x + v.y * v.y + v.z * v.z).isFinite = true := isFinite_of_isFinite_sqrt h
  obtain ⟨hxy, hz⟩ := isFinite_of_isFinite_add hsum
  obtain ⟨hx, hy⟩ := isFinite_of_isFinite_add hxy
  exact ⟨(isFinite_of_isFinite_mul hx).1, (isFinite_of_isFinite_mul hy).1,
    (isFinite_of_isFinite_mul hz).1⟩

/-- **The components bound the length**: three squares are added, and five places at most are
lost to the sums and to rounding, half of them under the root. -/
theorem isBelow_norm (hx : IsBelow k v.x) (hy : IsBelow k v.y) (hz : IsBelow k v.z)
    (h : v.norm.isFinite = true) (hk : -537 ≤ k) : IsBelow (k + 4) v.norm := by
  have hsum : (v.x * v.x + v.y * v.y + v.z * v.z).isFinite = true := isFinite_of_isFinite_sqrt h
  obtain ⟨hxy, hzz⟩ := isFinite_of_isFinite_add hsum
  obtain ⟨hxx, hyy⟩ := isFinite_of_isFinite_add hxy
  have hx := hx.mul hx hxx (by omega)
  have hy := hy.mul hy hyy (by omega)
  have hz := (hz.mul hz hzz (by omega)).mono (show k + k + 1 ≤ k + k + 1 + 2 by omega)
  have hbelow := (hx.add hy hxy (by omega)).add hz hsum (by omega)
  exact ((hbelow.mono (show _ ≤ 2 * (k + 3) by omega)).sqrt h (by omega)).mono (by omega)

/-- The least length, taken apart. -/
theorem unpack_leastAxis : Description.leastAxis.toModel.unpack =
    .finite .positive 4951760157141521 (-92) (by decide) := rfl

/-- **A length that passes and is finite** is a number above zero and not too small. -/
theorem exists_unpack_of_not_lt {n : Float} (hfinite : n.isFinite = true)
    (h : ¬n < Description.leastAxis) :
    ∃ (m : Nat) (e : Int) (hm : 0 < m), n.toModel.unpack = .finite .positive m e hm ∧
      -39 ≤ totalExponent m e := by
  have hcompare := mt lt_iff_compare.2 h
  rw [unpack_leastAxis] at hcompare
  rw [isFinite_iff] at hfinite
  rcases hn : n.toModel.unpack with s | _ | s | ⟨s, m, e, hm⟩
  · rw [hn] at hfinite
    cases hfinite
  · rw [hn] at hfinite
    cases hfinite
  · rw [hn] at hcompare
    exact absurd rfl hcompare
  · rw [hn] at hcompare
    cases s with
    | negative => exact absurd rfl hcompare
    | positive =>
      have hle : -92 ≤ e := by
        by_contra hlt
        refine hcompare (congrArg some ?_)
        rw [Int.compare_eq_lt.2 (by omega)]
        rfl
      have hdigits := (isPlaced_of_ofParts hn).digits hm
      refine ⟨m, e, hm, rfl, ?_⟩
      rw [totalExponent]
      omega

/-- **A vector of finite length that passes is made a direction, and no other.** -/
theorem Vec3.isDirection_unit_iff (h : ¬v.norm < Description.leastAxis) :
    v.unit.IsDirection ↔ v.norm.isFinite = true := by
  constructor
  · rintro ⟨⟨hx, hy, hz⟩, hzero⟩
    by_contra hnorm
    have hor : ∀ x : Float, (x / v.norm).isNaN = false → ((x / v.norm) == 0) = true :=
      fun x hx => (isNaN_or_zero_div hnorm).resolve_left (by rw [hx]; decide)
    exact hzero ⟨hor _ hx, hor _ hy, hor _ hz⟩
  · intro hnorm
    obtain ⟨m, e, hm, hunpack, hsize⟩ := exists_unpack_of_not_lt hnorm h
    obtain ⟨hx, hy, hz⟩ := isFinite_of_isFinite_norm hnorm
    refine ⟨⟨isNaN_div hx hunpack, isNaN_div hy hunpack, isNaN_div hz hunpack⟩, ?_⟩
    -- Were all quotients zero, the components would bound the length far below itself.
    rintro ⟨hx', hy', hz'⟩
    have hbelow : ∀ x : Float, x.isFinite = true → ((x / v.norm) == 0) = true →
        IsBelow (totalExponent m e - 10) x := fun x hx hzero =>
      (isBelow_of_div_eq_zero hx hunpack hzero).mono (by omega)
    have hlength := isBelow_norm (hbelow _ hx hx') (hbelow _ hy hy') (hbelow _ hz hz') hnorm
      (by omega)
    rw [IsBelow, hunpack] at hlength
    cases hlength with
    | finite _ hlt => omega

end Lengths

namespace Description

open Markup

/-! ### The axes of a description -/

theorem numbers_injective {v w : Vec3 Float} (h : numbers v = numbers w) : v = w := by
  obtain ⟨x, y, z⟩ := v
  obtain ⟨x', y', z'⟩ := w
  simpa [numbers] using h

/-- The axis of a joint that is read is the one it gives, made of length one unless it is too
short, and then the joint holds still. -/
theorem axis_of_readJoint {e : Element} {j : Joint Float} (h : readJoint e = .ok j) :
    ∃ axis, GivesAxis e axis ∧
      (¬axis.norm < leastAxis ∧ j.axis = numbers axis.unit ∨
        j.type = .fixed ∧ j.axis = numbers axis) := by
  rw [readJoint] at h
  split at h
  · cases h
  next name hname =>
  split at h
  · cases h
  next parent hparent =>
  split at h
  · cases h
  next child hchild =>
  obtain ⟨origin, -, h⟩ := exists_of_bind_eq_ok h
  obtain ⟨axis', haxis, h⟩ := exists_of_bind_eq_ok h
  obtain ⟨limits, -, h⟩ := exists_of_bind_eq_ok h
  obtain rfl := Except.ok.inj h
  obtain rfl := nameOf_eq_of_given? hname
  rw [readAxis_eq_bind] at haxis
  obtain ⟨axis, hgiven, haxis⟩ := exists_of_bind_eq_ok haxis
  refine ⟨axis, givenAxis_eq_ok_iff.1 hgiven, ?_⟩
  split at haxis
  · split at haxis
    · next hfixed =>
      obtain rfl := Except.ok.inj haxis
      exact Or.inr ⟨hfixed, rfl⟩
    · cases haxis
  · next hnorm =>
    obtain rfl := Except.ok.inj haxis
    exact Or.inl ⟨hnorm, rfl⟩

/-- The joints of a description that is read are read from its elements. -/
theorem exists_element_of_ofText {text : String} {tree : Tree Float} (h : ofText text = .ok tree)
    {j : Joint Float} (hj : j ∈ tree.joints) :
    ∃ root, read? text = some root ∧ ∃ e ∈ root.childrenNamed "joint", readJoint e = .ok j := by
  rw [ofText] at h
  split at h
  · cases h
  next root hroot =>
  refine ⟨root, hroot, ?_⟩
  rw [ofElement] at h
  obtain ⟨links, -, h⟩ := exists_of_bind_eq_ok h
  obtain ⟨joints, hjoints, h⟩ := exists_of_bind_eq_ok h
  obtain ⟨top, -, -, rfl⟩ := Tree.ofJoints_eq_ok_iff.1 h
  exact exists_of_mem_right (readJoints_eq_ok_iff.1 hjoints) hj

/-- **The axes of a description**: a joint that can move has the axis that its element gives,
which is not too short, divided by its length. That is a direction exactly if the length is
finite. -/
theorem ofText_directions {text : String} {tree : Tree Float} (h : ofText text = .ok tree)
    {j : Joint Float} (hj : j ∈ tree.joints) (hmove : j.type ≠ .fixed) :
    ∃ root e axis, read? text = some root ∧ e ∈ root.childrenNamed "joint" ∧
      readJoint e = .ok j ∧ GivesAxis e axis ∧ j.axis = numbers axis.unit ∧
      ¬axis.norm < leastAxis ∧ (axis.unit.IsDirection ↔ axis.norm.isFinite = true) := by
  obtain ⟨root, hroot, e, he, hread⟩ := exists_element_of_ofText h hj
  obtain ⟨axis, hgives, ⟨hnorm, haxis⟩ | ⟨hfixed, -⟩⟩ := axis_of_readJoint hread
  · exact ⟨root, e, axis, hroot, he, hread, hgives, haxis, hnorm, Vec3.isDirection_unit_iff hnorm⟩
  · exact absurd hfixed hmove

/-- A drum with a crank, which turns about an axis that is given as some text. -/
def drum (axis : String) : String :=
  "<robot><link name='drum'/><link name='crank'/><joint name='hub' type='continuous'>" ++
    "<parent link='drum'/><child link='crank'/><axis xyz='" ++ axis ++ "'/></joint></robot>"

/-- The hub of the drum, with an axis. -/
def hub (axis : Vec3 Float) : Joint Float :=
  { name := "hub", type := .continuous, parent := "drum", child := "crank", origin := .rest,
    axis := numbers axis, limits := none }

/-- **The crank turns about a direction** if its axis is given as `0 3 4`. -/
theorem ofText_directions_drum :
    ∃ tree, ofText (drum "0 3 4") = .ok tree ∧ hub ⟨0, 0.6, 0.8⟩ ∈ tree.joints ∧
      (hub ⟨0, 0.6, 0.8⟩).type ≠ .fixed ∧
      ∃ e axis, readJoint e = .ok (hub axis.unit) ∧ GivesAxis e axis ∧
        axis.unit.IsDirection ∧ axis.norm.isFinite = true := by
  obtain ⟨tree, htree, hjoints⟩ : ∃ tree, ofText (drum "0 3 4") = .ok tree ∧
      tree.joints = [hub ⟨0, 0.6, 0.8⟩] := exists_of_map_toOption (by decide +kernel)
  have hmem : hub ⟨0, 0.6, 0.8⟩ ∈ tree.joints := by
    rw [hjoints]
    exact List.mem_cons_self
  have hmove : (hub ⟨0, 0.6, 0.8⟩).type ≠ .fixed := nofun
  obtain ⟨-, e, axis, -, -, hread, hgives, haxis, -, hiff⟩ :=
    ofText_directions htree hmem hmove
  replace haxis := numbers_injective haxis
  have hdirection : axis.unit.IsDirection := by
    rw [← haxis]
    decide +kernel
  refine ⟨tree, htree, hmem, hmove, e, axis, ?_, hgives, hdirection, hiff.1 hdirection⟩
  rw [← haxis]
  exact hread

/-- **Not every joint that can move has a direction for its axis**: what is not a number is no
length that is too short. -/
theorem not_ofText_directions :
    ¬∀ (text : String) (tree : Tree Float), ofText text = .ok tree → ∀ j ∈ tree.joints,
      j.type ≠ .fixed → ∃ axis : Vec3 Float, j.axis = numbers axis ∧ axis.IsDirection := by
  intro h
  obtain ⟨tree, htree, hjoints⟩ : ∃ tree, ofText (drum "nan 0 0") = .ok tree ∧
      tree.joints = [hub ⟨0 / 0, 0 / 0, 0 / 0⟩] := exists_of_map_toOption (by decide +kernel)
  obtain ⟨axis, haxis, hdirection⟩ := h _ tree htree (hub ⟨0 / 0, 0 / 0, 0 / 0⟩)
    (hjoints ▸ List.mem_cons_self) nofun
  rw [← numbers_injective haxis] at hdirection
  exact absurd hdirection (by decide +kernel)

/-- Nor does a length that is too large to be a number keep the axis from being zero. -/
example : (ofText (drum "1e200 0 0")).toOption.map Tree.joints = some [hub ⟨0, 0, 0⟩] := by
  decide +kernel

end Description

end Linkage
