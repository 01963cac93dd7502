import Linkage.Proofs.Rounding

/-!
# What a binary64 number amounts to

A binary64 number is compared with another by exponent and mantissa, and with an integer by
shifting one of the two until both are integers. Both are comparisons of what the numbers
amount to, which is a real number or one of two infinities (`Linkage.amount`): exponents decide
because a mantissa fills the place that it has, unless the exponent is the least there is.

So an integer compares as a number that equals it does (`Linkage.le_iff_leInt`,
`Linkage.le_iff_intLe`), and it makes no difference to a comparison whether it is converted
first.

## Main results

* `Linkage.compare_eq_bind_amount`: two numbers compare as what they amount to.
* `Linkage.compareInt?_eq_map_amount`: so do a number and an integer.
* `Linkage.compare_of_compareInt?_eq`: an integer compares as the number equal to it.
-/

namespace Linkage

open Float.Model Float.Model.UnpackedFloat

/-- **What a number amounts to**: a real number or one of the infinities, and nothing if it is
not a number. -/
noncomputable def amount : UnpackedFloat → Option EReal
  | .notANumber => none
  | .infinity .positive => some ⊤
  | .infinity .negative => some ⊥
  | .zero _ => some 0
  | .finite .positive m e _ => some ((m * (2 : ℕ) ^ e : ℝ) : EReal)
  | .finite .negative m e _ => some ((-(m * (2 : ℕ) ^ e) : ℝ) : EReal)

/-- The opposite of a number amounts to the opposite. -/
theorem amount_neg (u : UnpackedFloat) : amount u.neg = (amount u).map fun a => -a := by
  rcases u with s | _ | s | ⟨s, m, e, hm⟩
  · cases s
    · exact congrArg some EReal.neg_bot.symm
    · exact congrArg some EReal.neg_top.symm
  · rfl
  · exact congrArg some neg_zero.symm
  · cases s
    · change some ((m * 2 ^ e : ℝ) : EReal) = some (-((-(m * 2 ^ e) : ℝ) : EReal))
      rw [← EReal.coe_neg, neg_neg]
    · rfl

/-- What amounts to a real number is finite. -/
theorem isFinite_of_amount {u : UnpackedFloat} {a : ℝ} (h : amount u = some (a : EReal)) :
    u.isFinite = true := by
  rcases u with s | _ | s | _
  · cases s
    · exact absurd (Option.some.inj h) (EReal.bot_lt_coe a).ne
    · exact absurd (Option.some.inj h) (EReal.coe_lt_top a).ne'
  · cases h
  · rfl
  · rfl

/-! ### The order of what numbers amount to -/

theorem dyadic_pos {m : Nat} (hm : 0 < m) (e : ℤ) : (0 : ℝ) < m * 2 ^ e :=
  mul_pos (Nat.cast_pos.2 hm) (zpow_pos two_pos e)

/-- What is below in its exponent is below, as the other has its first bit set. -/
theorem dyadic_lt_of_lt {m n : Nat} {e f : ℤ} (hm : m < 2 ^ 53) (hn : 2 ^ 52 ≤ n) (h : e < f) :
    (m * 2 ^ e : ℝ) < n * 2 ^ f :=
  calc
    (m * 2 ^ e : ℝ) < 2 ^ 53 * 2 ^ e :=
      mul_lt_mul_of_pos_right (by exact_mod_cast hm) (zpow_pos two_pos e)
    _ = 2 ^ 52 * 2 ^ (e + 1) := by rw [zpow_add_one₀ two_ne_zero]; ring
    _ ≤ n * 2 ^ f :=
      mul_le_mul (by exact_mod_cast hn) (zpow_le_zpow_right₀ one_le_two h) (zpow_nonneg zero_le_two _)
        (Nat.cast_nonneg n)

/-- **Exponents decide, and then mantissas**, of what is in place. -/
theorem compare_dyadic {m n : Nat} {e f : ℤ} (hm : IsPlaced m e) (hn : IsPlaced n f) :
    compare (m * 2 ^ e : ℝ) (n * 2 ^ f) = (compare e f).then (compare m n) := by
  obtain ⟨hmlt, hmleast, -, hmplace⟩ := hm
  obtain ⟨hnlt, hnleast, -, hnplace⟩ := hn
  rcases lt_trichotomy e f with h | rfl | h
  · have hlt := dyadic_lt_of_lt hmlt (hnplace.resolve_right (by omega)) h
    rw [compare_lt_iff_lt.2 hlt, compare_lt_iff_lt.2 h]
    rfl
  · have hmono : StrictMono fun k : Nat => (k * 2 ^ e : ℝ) := fun a b hab =>
      mul_lt_mul_of_pos_right (Nat.cast_lt.2 hab) (zpow_pos two_pos e)
    rw [compare_eq_iff_eq.2 (Eq.refl e), ← cmp_eq_compare, hmono.cmp_map_eq, cmp_eq_compare]
    rfl
  · have hlt := dyadic_lt_of_lt hnlt (hmplace.resolve_right (by omega)) h
    rw [compare_gt_iff_gt.2 hlt, compare_gt_iff_gt.2 h]
    rfl

/-- Opposites compare the other way round. -/
theorem compare_neg_real (a b : ℝ) : compare (-a) (-b) = (compare a b).swap := by
  rcases lt_trichotomy a b with h | rfl | h
  · rw [compare_lt_iff_lt.2 h, compare_gt_iff_gt.2 (neg_lt_neg h)]
    rfl
  · rw [compare_eq_iff_eq.2 rfl, compare_eq_iff_eq.2 rfl]
    rfl
  · rw [compare_gt_iff_gt.2 h, compare_lt_iff_lt.2 (neg_lt_neg h)]
    rfl

/-- Going over to larger kinds of numbers does not change how numbers compare. -/
theorem compare_intCast (a b : ℤ) : compare a b = compare (a : ℝ) (b : ℝ) := by
  rw [← cmp_eq_compare, ← cmp_eq_compare]
  exact (Int.cast_strictMono.cmp_map_eq a b).symm

theorem compare_coe (a b : ℝ) : compare (a : EReal) (b : EReal) = compare a b := by
  rw [← cmp_eq_compare, ← cmp_eq_compare]
  exact EReal.coe_strictMono.cmp_map_eq a b

/-! ### Comparing numbers -/

/-- Two finite numbers, neither of them zero, compare as what they amount to, -/
theorem compare_finite {s t : Sign} {m n : Nat} {e f : ℤ} (hm : 0 < m) (hn : 0 < n)
    (hmplace : IsPlaced m e) (hnplace : IsPlaced n f) :
    (UnpackedFloat.finite s m e hm).compare (.finite t n f hn) =
      (amount (.finite s m e hm)).bind fun a =>
        (amount (.finite t n f hn)).map fun b => compare a b := by
  have hmpos := dyadic_pos hm e
  have hnpos := dyadic_pos hn f
  cases s <;> cases t
  · refine congrArg some ?_
    exact ((compare_coe _ _).trans
      ((compare_neg_real _ _).trans (congrArg _ (compare_dyadic hmplace hnplace)))).symm
  · refine congrArg some (compare_lt_iff_lt.2 (EReal.coe_lt_coe_iff.2 ?_)).symm
    exact (neg_neg_of_pos hmpos).trans hnpos
  · refine congrArg some (compare_gt_iff_gt.2 (EReal.coe_lt_coe_iff.2 ?_)).symm
    exact (neg_neg_of_pos hnpos).trans hmpos
  · refine congrArg some ?_
    exact ((compare_coe _ _).trans (compare_dyadic hmplace hnplace)).symm

/-- What a finite number amounts to is a real number, on the side of zero that its sign tells. -/
theorem exists_amount_finite (s : Sign) {m : Nat} (e : ℤ) (hm : 0 < m) :
    ∃ a : ℝ, amount (.finite s m e hm) = some (a : EReal) ∧
      match s with
      | .positive => 0 < a
      | .negative => a < 0 := by
  cases s
  · exact ⟨_, rfl, neg_neg_of_pos (dyadic_pos hm e)⟩
  · exact ⟨_, rfl, dyadic_pos hm e⟩

/-- **Numbers compare as what they amount to.** -/
theorem compare_eq_bind_amount (x y : Float) :
    x.toModel.unpack.compare y.toModel.unpack =
      (amount x.toModel.unpack).bind fun a =>
        (amount y.toModel.unpack).map fun b => compare a b := by
  have heq : ∀ a : EReal, some Ordering.eq = some (compare a a) := fun a =>
    congrArg some (compare_eq_iff_eq.2 rfl).symm
  have hlt : ∀ {a b : EReal}, a < b → some Ordering.lt = some (compare a b) := fun h =>
    congrArg some (compare_lt_iff_lt.2 h).symm
  have hgt : ∀ {a b : EReal}, b < a → some Ordering.gt = some (compare a b) := fun h =>
    congrArg some (compare_gt_iff_gt.2 h).symm
  rcases hx : x.toModel.unpack with s | _ | s | ⟨s, m, e, hm⟩
  · rcases y.toModel.unpack with t | _ | t | ⟨t, n, f, hn⟩
    · cases s <;> cases t
      · exact heq ⊥
      · exact hlt bot_lt_top
      · exact hgt bot_lt_top
      · exact heq ⊤
    · cases s <;> rfl
    · cases s
      · exact hlt EReal.bot_lt_zero
      · exact hgt EReal.zero_lt_top
    · obtain ⟨b, hb, -⟩ := exists_amount_finite t f hn
      rw [hb]
      cases s <;> cases t
      · exact hlt (EReal.bot_lt_coe b)
      · exact hlt (EReal.bot_lt_coe b)
      · exact hgt (EReal.coe_lt_top b)
      · exact hgt (EReal.coe_lt_top b)
  · rfl
  · rcases y.toModel.unpack with t | _ | t | ⟨t, n, f, hn⟩
    · cases t
      · exact hgt EReal.bot_lt_zero
      · exact hlt EReal.zero_lt_top
    · rfl
    · exact heq 0
    · obtain ⟨b, hb, hsign⟩ := exists_amount_finite t f hn
      rw [hb]
      cases t
      · exact hgt (EReal.coe_lt_coe_iff.2 hsign)
      · exact hlt (EReal.coe_lt_coe_iff.2 hsign)
  · rcases hy : y.toModel.unpack with t | _ | t | ⟨t, n, f, hn⟩
    · obtain ⟨a, ha, -⟩ := exists_amount_finite s e hm
      rw [ha]
      cases s <;> cases t
      · exact hgt (EReal.bot_lt_coe a)
      · exact hlt (EReal.coe_lt_top a)
      · exact hgt (EReal.bot_lt_coe a)
      · exact hlt (EReal.coe_lt_top a)
    · cases s <;> rfl
    · obtain ⟨a, ha, hsign⟩ := exists_amount_finite s e hm
      rw [ha]
      cases s
      · exact hlt (EReal.coe_lt_coe_iff.2 hsign)
      · exact hgt (EReal.coe_lt_coe_iff.2 hsign)
    · exact compare_finite hm hn (isPlaced_of_ofParts hx) (isPlaced_of_ofParts hy)

/-! ### Comparing a number and an integer -/

/-- Shifting one of the two does not change how they compare. -/
theorem compareDyadic_eq (m e n : ℤ) : compareDyadic m e n = compare (m * 2 ^ e : ℝ) n := by
  rw [compareDyadic]
  split
  · next he =>
    obtain ⟨k, rfl⟩ := Int.eq_ofNat_of_zero_le he
    rw [compare_intCast, Int.toNat_natCast, zpow_natCast, Int.cast_mul]
    congr 2
    exact Nat.cast_pow 2 k
  · next he =>
    obtain ⟨k, rfl⟩ : ∃ k : Nat, e = -k := ⟨(-e).toNat, by omega⟩
    have hpos : (0 : ℝ) < 2 ^ k := pow_pos two_pos k
    have hmono : StrictMono fun a : ℝ => a * 2 ^ k := fun a b hab =>
      mul_lt_mul_of_pos_right hab hpos
    rw [compare_intCast, neg_neg, Int.toNat_natCast, ← cmp_eq_compare (_ * _) (n : ℝ),
      ← hmono.cmp_map_eq, cmp_eq_compare, Int.cast_mul]
    congr 1
    · rw [zpow_neg, zpow_natCast, mul_assoc, inv_mul_cancel₀ hpos.ne', mul_one]
    · congr 1
      exact Nat.cast_pow 2 k

/-- **A number and an integer compare as what the number amounts to and the integer.** -/
theorem compareInt?_eq_map_amount (x : Float) (n : ℤ) :
    compareInt? x n = (amount x.toModel.unpack).map fun a => compare a ((n : ℝ) : EReal) := by
  rw [compareInt?]
  rcases x.toModel.unpack with s | _ | s | ⟨s, m, e, hm⟩
  · cases s
    · exact congrArg some (compare_lt_iff_lt.2 (EReal.bot_lt_coe _)).symm
    · exact congrArg some (compare_gt_iff_gt.2 (EReal.coe_lt_top _)).symm
  · rfl
  · refine congrArg some ?_
    rw [compare_intCast, ← compare_coe, Int.cast_zero]
    rfl
  · cases s
    · refine congrArg some ?_
      rw [compareDyadic_eq, ← compare_coe, Int.cast_neg, Int.cast_natCast, neg_mul]
      rfl
    · refine congrArg some ?_
      rw [compareDyadic_eq, ← compare_coe, Int.cast_natCast]
      rfl

/-! ### A number that is an integer -/

/-- What amounts to an integer equals it. -/
theorem compareInt?_eq_of_amount {x : Float} {n : ℤ}
    (h : amount x.toModel.unpack = some ((n : ℝ) : EReal)) : compareInt? x n = some .eq := by
  rw [compareInt?_eq_map_amount, h, Option.map_some, compare_eq_iff_eq.2 rfl]

section Equal

variable {y : Float} {n : ℤ} (h : compareInt? y n = some .eq)
include h

theorem amount_of_compareInt?_eq : amount y.toModel.unpack = some ((n : ℝ) : EReal) := by
  rw [compareInt?_eq_map_amount] at h
  obtain ⟨a, ha, heq⟩ := Option.map_eq_some_iff.1 h
  rw [ha, compare_eq_iff_eq.1 heq]

/-- With a number that equals an integer others compare as with the integer, -/
theorem compare_of_compareInt?_eq (x : Float) :
    x.toModel.unpack.compare y.toModel.unpack = compareInt? x n := by
  rw [compare_eq_bind_amount, compareInt?_eq_map_amount, amount_of_compareInt?_eq h]
  cases amount x.toModel.unpack <;> rfl

/-- from the other side as well, -/
theorem compare_swap_of_compareInt?_eq (x : Float) :
    y.toModel.unpack.compare x.toModel.unpack = (compareInt? x n).map Ordering.swap := by
  rw [compare_eq_bind_amount, compareInt?_eq_map_amount, amount_of_compareInt?_eq h,
    Option.map_map]
  refine congrArg (amount x.toModel.unpack).map (funext fun b => ?_)
  rw [Function.comp_apply, ← cmp_eq_compare, ← cmp_eq_compare, cmp_swap]

/-- and integers as with one another. -/
theorem compareInt?_of_compareInt?_eq (m : ℤ) : compareInt? y m = some (compare n m) := by
  rw [compareInt?_eq_map_amount, amount_of_compareInt?_eq h, Option.map_some, compare_coe,
    ← compare_intCast]

/-- So it makes no difference to a comparison which of the two is given, above, -/
theorem le_iff_leInt (x : Float) : x ≤ y ↔ Scalar.leInt x n = true := by
  rw [le_iff_compare, compare_of_compareInt?_eq h]
  rfl

/-- below, -/
theorem le_iff_intLe (x : Float) : y ≤ x ↔ Scalar.intLe n x = true := by
  rw [le_iff_compare, compare_swap_of_compareInt?_eq h]
  change _ ↔ (compareInt? x n).any (·.isGE) = true
  rcases compareInt? x n with _ | o
  · rfl
  · cases o <;> rfl

/-- or between two integers. -/
theorem leInt_iff_le (m : ℤ) : Scalar.leInt y m = true ↔ n ≤ m := by
  change (compareInt? y m).any (·.isLE) = true ↔ _
  rw [compareInt?_of_compareInt?_eq h]
  exact Int.isLE_compare

theorem intLe_iff_le (m : ℤ) : Scalar.intLe m y = true ↔ m ≤ n := by
  change (compareInt? y m).any (·.isGE) = true ↔ _
  rw [compareInt?_of_compareInt?_eq h]
  exact Int.isGE_compare

end Equal

end Linkage
