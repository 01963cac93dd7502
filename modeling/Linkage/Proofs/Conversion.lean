import Linkage.Proofs.FloatAmount

/-!
# Integers that are numbers

An integer is converted to a binary64 number by giving it digits enough, or exponents that
are low enough, and rounding. If it is a binary64 number to begin with
(`Linkage.IsRepresentable`), then rounding finds nothing to round: the digits that are dropped
are the zeros that were added. So the number that it is converted to is equal to it.

There are two ways of converting. An integer of no more than 53 binary digits is always a
number, and is converted as it is; a larger one goes the way of decimals, and is a number only
if the digits beyond the first 53 are zeros.

## Main results

* `Linkage.roundWithAccuracy_shiftLeft`: rounding drops zeros and nothing else.
* `Linkage.IsRepresentable.exists_ofInt?`: an integer that is a number is converted to it.
-/

namespace Linkage

open Float.Model Float.Model.UnpackedFloat

/-! ### Rounding what need not be rounded -/

/-- Shifting drops zeros without a trace. -/
theorem shiftRight_shiftLeft (q k : Nat) :
    ExtendedMantissa.mk (q <<< k) false false >>> k = ⟨q, false, false⟩ := by
  induction k generalizing q with
  | zero => rfl
  | succ k ih =>
    have hdouble : q <<< (k + 1) = (2 * q) <<< k := by
      rw [Nat.shiftLeft_eq, Nat.shiftLeft_eq, Nat.pow_succ]
      ring
    change (ExtendedMantissa.mk (q <<< (k + 1)) false false >>> k).shiftRightOne = _
    rw [hdouble, ih, ExtendedMantissa.shiftRightOne]
    simp

/-- What is shifted to the exponent it had before zeros were added to it is as it was. -/
theorem shiftToTargetExponent_shiftLeft {q k : Nat} {f : ℤ} (h : shiftOf (q <<< k) (f - k) = k) :
    shiftToTargetExponent .binary64 (q <<< k) (f - k) .exact = (⟨q, false, false⟩, f) := by
  change (ExtendedMantissa.mk (q <<< k) false false >>> shiftOf (q <<< k) (f - k),
    f - k + shiftOf (q <<< k) (f - k)) = _
  rw [h, shiftRight_shiftLeft, Int.sub_add_cancel]

/-- **Rounding finds nothing to round** in a mantissa that zeros were added to. -/
theorem roundWithAccuracy_shiftLeft (s : Sign) {q : Nat} {f : ℤ} (hq : 0 < q)
    (h : IsSettled q f) (k : Nat) :
    roundWithAccuracy .binary64 s (q <<< k) (f - k) .exact = .finite s q f hq := by
  obtain ⟨hlt, hleast, hplace⟩ := h
  have hlog : q.log2 ≤ 52 := Nat.lt_succ_iff.1 ((Nat.log2_lt (Nat.ne_of_gt hq)).2 hlt)
  have hlog' : 2 ^ 52 ≤ q → 52 ≤ q.log2 := (Nat.le_log2 (Nat.ne_of_gt hq)).2
  have hshift : ∀ k : Nat, shiftOf (q <<< k) (f - k) = k := by
    intro k
    rw [shiftOf, totalExponent, log2_shiftLeft hq]
    omega
  have hfirst := shiftToTargetExponent_shiftLeft (hshift k)
  have hsecond := shiftToTargetExponent_shiftLeft (hshift 0)
  rw [Nat.shiftLeft_zero, Int.natCast_zero, Int.sub_zero] at hsecond
  have hrounded : (ExtendedMantissa.mk q false false).roundedMantissa = q := rfl
  simp only [roundWithAccuracy, hfirst, hrounded, hsecond, dif_neg (Nat.ne_of_gt hq)]

/-! ### Natural numbers -/

/-- What is in place comes out of the number that it is put in. -/
theorem unpack_model_pack (s : Sign) {m : Nat} {e : ℤ} (hm : 0 < m) (h : IsPlaced m e) :
    (Float.Model.pack (.finite s m e hm)).unpack = .finite s m e hm :=
  unpack_pack hm h

/-- An integer of no more than 53 digits is a number once zeros are added to it, -/
theorem unpack_ofNat_of_lt {n : Nat} (hn : 0 < n) (hlt : n < 2 ^ 53) :
    ∃ hpos, (Float.ofNat n).toModel.unpack =
      .finite .positive (n <<< (52 - n.log2)) (-(52 - n.log2 : Nat)) hpos := by
  have hlog : n.log2 ≤ 52 := Nat.lt_succ_iff.1 ((Nat.log2_lt (Nat.ne_of_gt hn)).2 hlt)
  have hpos : 0 < n <<< (52 - n.log2) := Nat.shiftLeft_pos_iff.2 hn
  have hplaced : IsPlaced (n <<< (52 - n.log2)) (-(52 - n.log2 : Nat)) := by
    have hdigits := log2_shiftLeft hn (52 - n.log2)
    refine ⟨(Nat.log2_lt (Nat.ne_of_gt hpos)).1 (by omega), by omega, by omega, Or.inl ?_⟩
    exact (Nat.le_log2 (Nat.ne_of_gt hpos)).1 (by omega)
  have hsettled : IsSettled (n <<< (52 - n.log2)) (-(52 - n.log2 : Nat)) :=
    ⟨hplaced.1, hplaced.2.1, hplaced.2.2.2⟩
  have hconvert : (n.toUInt64.toFloat).toModel.unpack =
      .finite .positive (n <<< (52 - n.log2)) (-(52 - n.log2 : Nat)) hpos := by
    -- The exponent is brought down to where the first digit is in its place.
    have hround : UnpackedFloat.round .binary64 .positive n 0 =
        .finite .positive (n <<< (52 - n.log2)) (-(52 - n.log2 : Nat)) hpos := by
      have htarget : (0 - max (totalExponent n 0 - 53) (-1074)).toNat = 52 - n.log2 := by
        rw [totalExponent]
        omega
      have hexact := roundWithAccuracy_shiftLeft .positive hpos hsettled 0
      rw [Nat.shiftLeft_zero, Int.natCast_zero, Int.sub_zero] at hexact
      change roundWithAccuracy .binary64 .positive
        (n <<< (0 - max (totalExponent n 0 - 53) (-1074)).toNat)
        (0 - (0 - max (totalExponent n 0 - 53) (-1074)).toNat) .exact = _
      rw [htarget, Int.zero_sub, hexact]
    have hnat : n.toUInt64.toNat = n := UInt64.toNat_ofNat_of_lt' (hlt.trans (by decide))
    have hunpacked : UnpackedFloat.ofUInt64 .binary64 n.toUInt64 =
        UnpackedFloat.round .binary64 .positive n 0 := by
      rw [UnpackedFloat.ofUInt64, hnat, UnpackedFloat.ofNat, UnpackedFloat.ofInt,
        UnpackedFloat.normalize, Int.compare_eq_gt.2 (by omega)]
      rfl
    change (Float.Model.pack (UnpackedFloat.ofUInt64 .binary64 n.toUInt64)).unpack = _
    rw [hunpacked, hround]
    exact unpack_model_pack .positive hpos hplaced
  refine ⟨hpos, ?_⟩
  have hfast : Float.ofNat n = n.toUInt64.toFloat * Float.exactlyRepresentablePowersOfTen[0] :=
    dif_pos ⟨hlt, by decide⟩
  have hone : (Float.exactlyRepresentablePowersOfTen[0]).toModel.unpack =
      .finite .positive (2 ^ 52) (-52) (by decide) := rfl
  rw [hfast]
  change (Float.Model.pack (UnpackedFloat.mul .binary64 n.toUInt64.toFloat.toModel.unpack
    (Float.exactlyRepresentablePowersOfTen[0]).toModel.unpack)).unpack = _
  rw [hconvert, hone, UnpackedFloat.mul, ← Nat.shiftLeft_eq]
  have hexact := roundWithAccuracy_shiftLeft .positive hpos hsettled 52
  change (Float.Model.pack (roundWithAccuracy .binary64 .positive _ _ .exact)).unpack = _
  rw [show -((52 - n.log2 : Nat) : ℤ) + -52 = -((52 - n.log2 : Nat) : ℤ) - (52 : Nat) by omega, hexact]
  exact unpack_model_pack .positive hpos hplaced

/-- and one of more digits is a number if the rest of them are zeros. -/
theorem unpack_ofNat_shiftLeft {m k : Nat} (hm : 0 < m) (hplaced : IsPlaced m k)
    (hlarge : 2 ^ 53 ≤ m <<< k) :
    (Float.ofNat (m <<< k)).toModel.unpack = .finite .positive m k hm := by
  have hofNat : Float.ofNat (m <<< k) = Float.ofModel (Float.Model.ofScientific (m <<< k) 0) :=
    dif_neg fun hfast => absurd hfast.1 (by omega)
  have hsettled : IsSettled m k := ⟨hplaced.1, hplaced.2.1, hplaced.2.2.2⟩
  have hbits : Format.binary64.mantissaBits = 53 := rfl
  have hleast : ¬(0 : Int) < -((2 ^ Format.binary64.exponentBits : Int) + (m <<< k).log2) := by
    have hpow : (0 : Int) ≤ 2 ^ Format.binary64.exponentBits := by decide
    omega
  have hpos : m <<< k ≠ 0 := by omega
  have hexact : UnpackedFloat.ofScientific .binary64 (m <<< k) 0 = .finite .positive m k hm := by
    unfold UnpackedFloat.ofScientific
    rw [dif_neg hpos, if_neg (by decide), if_neg hleast, if_pos (by decide), UnpackedFloat.mul,
      hbits, Int.toNat_zero, Nat.pow_zero, Nat.mul_one, ← Nat.shiftLeft_add]
    have hexact := roundWithAccuracy_shiftLeft .positive hm hsettled (k + 53)
    rw [show (k : ℤ) - (k + 53 : Nat) = -(53 : Nat) + 0 by omega] at hexact
    exact hexact
  rw [hofNat]
  change (Float.Model.pack (UnpackedFloat.ofScientific .binary64 (m <<< k) 0)).unpack = _
  rw [hexact]
  exact unpack_model_pack .positive hm hplaced

/-! ### Integers -/

/-- **An integer that is a binary64 number**: one of them compares equal to it. -/
def IsRepresentable (n : ℤ) : Prop := ∃ y : Float, compareInt? y n = some .eq

/-- Its opposite is one, too. -/
theorem IsRepresentable.neg {n : ℤ} (h : IsRepresentable n) : IsRepresentable (-n) := by
  obtain ⟨y, hy⟩ := h
  refine ⟨-y, compareInt?_eq_of_amount ?_⟩
  rw [unpack_neg, amount_neg, amount_of_compareInt?_eq hy, Option.map_some, Int.cast_neg,
    EReal.coe_neg]

/-- A positive integer that is a number has a mantissa and an exponent that are in place. -/
theorem IsRepresentable.exists_isPlaced {n : Nat} (hn : 0 < n) (h : IsRepresentable n) :
    ∃ m e, 0 < m ∧ IsPlaced m e ∧ (m * 2 ^ e : ℝ) = n := by
  obtain ⟨y, hy⟩ := h
  have hamount := amount_of_compareInt?_eq hy
  have hpos : (0 : ℝ) < n := Nat.cast_pos.2 hn
  rw [Int.cast_natCast] at hamount
  rcases hu : y.toModel.unpack with s | _ | s | ⟨s, m, e, hm⟩
  · have hfinite := isFinite_of_amount hamount
    rw [hu] at hfinite
    cases hfinite
  · rw [hu] at hamount
    cases hamount
  · rw [hu] at hamount
    exact absurd (EReal.coe_injective (Option.some.inj hamount)) hpos.ne
  · rw [hu] at hamount
    cases s
    · have hneg := EReal.coe_injective (Option.some.inj hamount)
      exact absurd hpos (hneg ▸ (neg_neg_of_pos (dyadic_pos hm e)).le).not_gt
    · exact ⟨m, e, hm, isPlaced_of_ofParts hu, EReal.coe_injective (Option.some.inj hamount)⟩

/-- A natural number that is a binary64 number is converted to it, -/
theorem IsRepresentable.amount_ofNat {n : Nat} (h : IsRepresentable n) :
    amount (Float.ofNat n).toModel.unpack = some ((n : ℝ) : EReal) := by
  rcases Nat.eq_zero_or_pos n with rfl | hn
  · rw [Nat.cast_zero]
    rfl
  by_cases hsmall : n < 2 ^ 53
  · obtain ⟨hpos, hu⟩ := unpack_ofNat_of_lt hn hsmall
    rw [hu, amount, Nat.shiftLeft_eq, Nat.cast_mul, Nat.cast_pow, Nat.cast_two, zpow_neg,
      zpow_natCast, mul_assoc, mul_inv_cancel₀ (pow_ne_zero _ two_ne_zero), mul_one]
  obtain ⟨m, e, hm, hplaced, hvalue⟩ := h.exists_isPlaced hn
  -- More than 53 digits come from a mantissa by shifting it to the left.
  have he : 0 ≤ e := by
    by_contra! he
    have hle : (n : ℝ) ≤ m := by
      rw [← hvalue]
      exact mul_le_of_le_one_right (Nat.cast_nonneg m) (zpow_le_one_of_nonpos₀ one_le_two he.le)
    exact hsmall ((Nat.cast_le.1 hle).trans_lt hplaced.1)
  obtain ⟨k, rfl⟩ := Int.eq_ofNat_of_zero_le he
  have hshift : m <<< k = n := by
    rw [Nat.shiftLeft_eq]
    exact_mod_cast hvalue
  rw [← hshift] at hsmall ⊢
  rw [unpack_ofNat_shiftLeft hm hplaced (by omega), amount, zpow_natCast, Nat.shiftLeft_eq]
  push_cast
  rfl

/-- and an integer likewise, as its sign changes nothing. -/
theorem IsRepresentable.amount_ofInt {n : ℤ} (h : IsRepresentable n) :
    amount (Float.ofInt n).toModel.unpack = some ((n : ℝ) : EReal) := by
  cases n with
  | ofNat n => exact IsRepresentable.amount_ofNat h
  | negSucc n =>
    change amount (-Float.ofNat (n + 1)).toModel.unpack = _
    have hnat : IsRepresentable (n + 1 : Nat) := h.neg
    rw [unpack_neg, amount_neg, hnat.amount_ofNat, Option.map_some, Int.cast_negSucc, EReal.coe_neg]

/-- **An integer that is a binary64 number is converted to it.** -/
theorem IsRepresentable.exists_ofInt? {n : ℤ} (h : IsRepresentable n) :
    ∃ x : Float, Scalar.ofInt? n = some x ∧ compareInt? x n = some .eq :=
  ⟨Float.ofInt n, if_pos (isFinite_of_amount h.amount_ofInt),
    compareInt?_eq_of_amount h.amount_ofInt⟩

end Linkage
