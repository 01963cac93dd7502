import Linkage.Proofs.AxisAngle
import Linkage.Proofs.Sharing

/-!
# Frames in groups

A product of many frames can be written in many ways: some of its factors may be multiplied first, in
a product of their own, and this again in groups; any factor and any group may be cached, and frames
at rest may stand anywhere in between. Over the real numbers none of this makes a difference. What is
to be multiplied is a list of factors, and an expression is a grouping of the list
(`Linkage.FrameExpr.Groups`) if the list is what remains when all groups are opened, the frames at
rest dropped and the cached frames taken out of their places.

Without a pass it is enough to look at one group and the factor in front of it: the product of
frames that come after one another is the product of their products
(`Linkage.Frame.product_append`), and a fault in any factor is the fault of the group, as factors are
computed from left to right in either case (`Linkage.FrameExpr.Groups.plain_eq`). A pass adds nothing
to this, because frames come to the same in it as on their own (`Linkage.FrameExpr.agrees_inPass`).
The two make `Linkage.FrameExpr.evaluate_grouping`, which also says what the product of two frames is
in terms of their positions and rotations (`Linkage.Frame.ofParts_mul`).
-/

namespace Linkage

open Matrix

/-! ### The product of two frames -/

/-- The vector of a column. -/
def Vec3.ofColumn (c : Fin 3 → ℝ) : Vec3 ℝ := ⟨c 0, c 1, c 2⟩

@[simp]
theorem Vec3.toColumn_ofColumn (c : Fin 3 → ℝ) : (ofColumn c).toColumn = c := by
  ext i
  fin_cases i <;> rfl

/-- A matrix times a column, row by row. -/
theorem Mat3.mulVec_toColumn (m : Mat3 ℝ) (v : Vec3 ℝ) :
    m.toMatrix *ᵥ v.toColumn = ![m.x.x * v.x + m.x.y * v.y + m.x.z * v.z,
      m.y.x * v.x + m.y.y * v.y + m.y.z * v.z, m.z.x * v.x + m.z.y * v.y + m.z.z * v.z] := by
  ext i
  rw [mulVec, dotProduct, Fin.sum_univ_three]
  fin_cases i <;> rfl

section Parts

variable (p p' : Vec3 ℝ) (m m' : Mat3 ℝ)

theorem homogeneous_mul :
    homogeneous p m * homogeneous p' m' =
      homogeneous (.ofColumn (m.toMatrix *ᵥ p'.toColumn + p.toColumn)) (m * m') := by
  rw [Mat3.mulVec_toColumn]
  change _ = homogeneous _ (Mat3.mul m m')
  ext i j
  rw [Matrix.mul_apply, Fin.sum_univ_four]
  fin_cases i <;> fin_cases j <;>
    simp [homogeneous, Mat3.mul, Vec3.mulMat, Vec3.ofColumn, Vec3.toColumn]

/-- **One frame after another**: the rotations are multiplied, and the position of the second is
turned by the rotation of the first before the two positions are added. -/
theorem Frame.ofParts_mul :
    ofParts p m * ofParts p' m' =
      ofParts (.ofColumn (m.toMatrix *ᵥ p'.toColumn + p.toColumn)) (m * m') := by
  apply toMatrix_injective
  rw [toMatrix_mul, toMatrix_ofParts, toMatrix_ofParts, toMatrix_ofParts, homogeneous_mul]

end Parts

theorem Frame.product_singleton (f : Frame ℝ) : product [f] = f := by
  apply toMatrix_injective
  rw [toMatrix_product, List.map_singleton, List.prod_singleton]

/-! ### Groups -/

namespace FrameExpr

/-- **A grouping of a list of factors**: a factor by itself, a frame at rest that stands for no
factor, a grouping that is cached, or a product of groupings one after the other. -/
inductive Groups : FrameExpr ℝ → List (FrameExpr ℝ) → Prop
  | factor (e : FrameExpr ℝ) : Groups e [e]
  /-- A frame of no position and no rotation given. -/
  | rest {e : FrameExpr ℝ} {n n' : Nat} (h : frameOf none none n = .ok (e, n')) : Groups e []
  | cached {id : Nat} {e : FrameExpr ℝ} {fs : List (FrameExpr ℝ)} (h : Groups e fs) :
    Groups (.cached id e) fs
  | empty {id : Nat} : Groups (.product id []) []
  /-- A product with one grouping more in front. -/
  | cons {id : Nat} {e : FrameExpr ℝ} {es fs gs : List (FrameExpr ℝ)} (h : Groups e fs)
    (h' : Groups (.product id es) gs) : Groups (.product id (e :: es)) (fs ++ gs)

variable {q : List ℝ}

/-- A frame of no position and no rotation given comes to the identity. -/
theorem plain_of_frameOf {e : FrameExpr ℝ} {n n' : Nat} (h : frameOf none none n = .ok (e, n')) :
    e.plain q = .ok 1 := by
  rw [frameOf_none_eq] at h
  obtain ⟨rfl, -⟩ := Prod.mk.inj (Except.ok.inj h)
  have hplain := (shows_rest n).plain_eq q
  rw [plainFrames] at hplain
  rcases hvalue : (PlacePlan.rest.node n : FrameExpr ℝ).plain q with fault | f
  · rw [hvalue] at hplain
    cases hplain
  · rw [hvalue] at hplain
    have hrest : [f] = [Frame.rest] := Except.ok.inj hplain
    rw [List.singleton_inj.1 hrest, Frame.rest_eq_one]

/-- **What a product of factors comes to.** -/
theorem plain_product (id : Nat) (fs : List (FrameExpr ℝ)) :
    (product id fs).plain q = (plainFrames q fs).map Frame.product := by
  rw [plain]
  rcases plainFrames q fs with fault | xs
  · rfl
  · rfl

/-- A product of one factor comes to the same as the factor. -/
theorem plain_product_singleton (id : Nat) (e : FrameExpr ℝ) :
    (product id [e]).plain q = e.plain q := by
  rw [plain_product, plainFrames]
  rcases e.plain q with fault | x
  · rfl
  · exact congrArg Except.ok (Frame.product_singleton x)

/-- **Factors after factors** come to a product of two, and a fault in those in front comes first. -/
theorem plain_product_append (id : Nat) (fs gs : List (FrameExpr ℝ)) :
    (product id (fs ++ gs)).plain q =
      (do return (← (product id fs).plain q) * (← (product id gs).plain q)) := by
  rw [plain_product, plain_product, plain_product, plainFrames_append]
  rcases plainFrames q fs with fault | xs
  · rfl
  rcases plainFrames q gs with fault | ys
  · rfl
  exact congrArg Except.ok (Frame.product_append xs ys)

/-- **A grouping comes to the product of its factors**, or to the fault of the first of them that has
one. By induction on the grouping: the grouping in front of a product is computed before the others,
and so are its factors in the list of all. -/
theorem Groups.plain_eq {e : FrameExpr ℝ} {fs : List (FrameExpr ℝ)} (h : Groups e fs) (id : Nat) :
    e.plain q = (product id fs).plain q := by
  induction h with
  | factor e => rw [plain_product_singleton]
  | rest h => exact plain_of_frameOf h
  | cached h ih =>
    rw [plain]
    exact ih
  | empty => rfl
  | @cons id' e es fs gs h h' ih ih' =>
    have hcons : (product id' (e :: es)).plain q = (product id' ([e] ++ es)).plain q := rfl
    rw [hcons, plain_product_append, plain_product_append, plain_product_singleton, ih, ih']

/-! ### In a pass -/

/-- **Two frames given by positions and rotations** come to one that is given by a position and a
rotation, in every pass. -/
theorem inPass_product_build {v v' : VectorExpr ℝ} {r r' : RotationExpr ℝ} {x x' : Vec3 ℝ}
    {m m' : Mat3 ℝ} (hv : v.evaluate q = .ok x) (hr : r.evaluate q = .ok m)
    (hv' : v'.evaluate q = .ok x') (hr' : r'.evaluate q = .ok m') (id a b : Nat) (p : Pass ℝ) :
    (((product id [.build a v r, .build b v' r']).evaluate q).inPass p).1 =
      .ok (.ofParts (.ofColumn (m.toMatrix *ᵥ x'.toColumn + x.toColumn)) (m * m')) := by
  have hshows : Shows [build a v r, build b v' r'] fun q =>
      plainFrames q [build a v r, build b v' r'] := by
    refine ⟨?_, fun _ => rfl⟩
    intro e he
    rcases List.mem_pair.1 he with rfl | rfl
    · exact ⟨a, v, r, rfl⟩
    · exact ⟨b, v', r', rfl⟩
  have hfirst : (build a v r).plain q = .ok (.ofParts x m) := by
    rw [plain, hv, hr]
    rfl
  have hsecond : (build b v' r').plain q = .ok (.ofParts x' m') := by
    rw [plain, hv', hr']
    rfl
  have hpair : [build a v r, build b v' r'] = [build a v r] ++ [build b v' r'] := rfl
  rw [inPass_product, hshows.inPass_eq, ← plain_product id, hpair, plain_product_append,
    plain_product_singleton, plain_product_singleton, hfirst, hsecond, ← Frame.ofParts_mul]
  rfl

/-- **Groups, cached frames and frames at rest make no difference.** In a pass that holds nothing but
values, an expression that groups a list of factors comes to what the product of the list comes to, a
value or a fault. And a product of two frames that are given by a position and a rotation each is the
frame of the two rotations multiplied, at the position of the second, turned by the rotation of the
first, added to that of the first. -/
theorem evaluate_grouping {S : Set (Node ℝ)} (hS : Node.IsDag S) {e : FrameExpr ℝ}
    {fs : List (FrameExpr ℝ)} (h : Groups e fs) {id : Nat} (he : .frame e ∈ S)
    (hflat : .frame (.product id fs) ∈ S) {p p' : Pass ℝ} (hp : p.Holds S q) (hp' : p'.Holds S q) :
    ((e.evaluate q).inPass p).1 = (((product id fs).evaluate q).inPass p').1 ∧
    ∀ (a b : Nat) (v v' : VectorExpr ℝ) (r r' : RotationExpr ℝ) (x x' : Vec3 ℝ) (m m' : Mat3 ℝ),
      v.evaluate q = .ok x → r.evaluate q = .ok m → v'.evaluate q = .ok x' →
      r'.evaluate q = .ok m' →
      ∃ f, (((product id [.build a v r, .build b v' r']).evaluate q).inPass p).1 = .ok f ∧
        f.rotation.toMatrix = m.toMatrix * m'.toMatrix ∧
        f.position.toColumn = m.toMatrix *ᵥ x'.toColumn + x.toColumn ∧ f.w = ⟨0, 0, 0, 1⟩ := by
  have hgroup := (e.agrees_inPass hS he hp).value_eq
  have hproduct := (agrees_inPass hS hflat hp').value_eq
  refine ⟨?_, fun a b v v' r r' x x' m m' hv hr hv' hr' => ?_⟩
  · rw [hgroup, hproduct, h.plain_eq id]
  · refine ⟨_, inPass_product_build hv hr hv' hr' id a b p, ?_, ?_, rfl⟩
    · rw [Frame.rotation_ofParts, Mat3.toMatrix_mul]
    · rw [Frame.position_ofParts, Vec3.toColumn_ofColumn]

/-! ### A slide taken twice -/

/-- The input in all three components. -/
def diagonal : VectorExpr ℝ :=
  .build 1 (.input ⟨0, 0, "x"⟩) (.input ⟨0, 0, "x"⟩) (.input ⟨0, 0, "x"⟩)

/-- The rotation that turns nothing. -/
def upright : RotationExpr ℝ := .quaternion 2 (.real 1) (.real 0) (.real 0) (.real 0)

/-- A frame shifted along the diagonal. -/
def slide : FrameExpr ℝ := .build 3 diagonal upright

/-- A frame at rest. -/
def pause : FrameExpr ℝ :=
  .build 9 (.build 7 (.const 4 (.real 0)) (.const 5 (.real 0)) (.const 6 (.real 0)))
    (.quaternion 8 (.real 1) (.real 0) (.real 0) (.real 0))

/-- The slide cached, before a pause and a product of nothing. -/
def halt : FrameExpr ℝ := .product 12 [.cached 10 slide, pause, .product 11 []]

/-- All of that cached, and the cached slide once more. -/
def journey : FrameExpr ℝ := .product 14 [.cached 13 halt, .cached 10 slide]

theorem groups_journey : Groups journey [slide, slide] := by
  have hframe : frameOf none none 4 = .ok (pause, 10) := rfl
  have hpause : Groups pause [] := .rest hframe
  have hcached : Groups (.cached 10 slide) [slide] := .cached (.factor slide)
  have hhalt : Groups halt [slide] := .cons hcached (.cons hpause (.cons .empty .empty))
  exact .cons (.cached hhalt) (.cons hcached .empty)

/-- The journey, the product of two slides, and what they are computed from. -/
def journeyNodes : List (Node ℝ) :=
  [.scalar (.input ⟨0, 0, "x"⟩), .vector diagonal, .rotation upright, .frame slide,
    .scalar (.const 4 (.real 0)), .scalar (.const 5 (.real 0)), .scalar (.const 6 (.real 0)),
    .vector (.build 7 (.const 4 (.real 0)) (.const 5 (.real 0)) (.const 6 (.real 0))),
    .rotation (.quaternion 8 (.real 1) (.real 0) (.real 0) (.real 0)), .frame pause,
    .frame (.cached 10 slide), .frame (.product 11 []), .frame halt, .frame (.cached 13 halt),
    .frame journey, .frame (.product 15 [slide, slide])]

theorem isDag_journeyNodes : Node.IsDag {n | n ∈ journeyNodes} := by
  refine Node.isDag_of_nodup ?_ (by decide)
  simp [journeyNodes, Node.children, diagonal, upright, slide, pause, halt, journey]

/-- **A slide cached, in groups and with pauses** is the product of two slides. -/
theorem evaluate_grouping_journey :
    Groups journey [slide, slide] ∧
    ((journey.evaluate [2]).inPass .new).1 =
      (((product 15 [slide, slide]).evaluate [2]).inPass .new).1 ∧
    ∃ f, ((journey.evaluate [2]).inPass .new).1 = .ok f ∧ f.w = ⟨0, 0, 0, 1⟩ := by
  have hjourney : Node.frame journey ∈ {n | n ∈ journeyNodes} := by simp [journeyNodes]
  have hflat : Node.frame (.product 15 [slide, slide]) ∈ {n | n ∈ journeyNodes} := by
    simp [journeyNodes]
  have hnew : Pass.new.Holds {n | n ∈ journeyNodes} [(2 : ℝ)] := Pass.holds_new _ _
  obtain ⟨hsame, hparts⟩ :=
    evaluate_grouping isDag_journeyNodes groups_journey hjourney hflat hnew hnew
  have hdiagonal : diagonal.evaluate [(2 : ℝ)] = .ok ⟨2, 2, 2⟩ := rfl
  have hupright : upright.evaluate [(2 : ℝ)] = .ok Mat3.level := rfl
  obtain ⟨f, hf, -, -, hw⟩ := hparts 3 3 _ _ _ _ _ _ _ _ hdiagonal hupright hdiagonal hupright
  exact ⟨groups_journey, hsame, f, hsame.trans hf, hw⟩

end FrameExpr

end Linkage
