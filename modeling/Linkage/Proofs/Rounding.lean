import Linkage.Proofs.Negation
import Mathlib

/-!
# How large a rounded number is

What an operation on binary64 numbers gives is the exact outcome, rounded. How large it is
can be told without knowing how it is rounded: by its *size*, the place of its first binary
digit, so that a number of size `k` is below `2 ^ k` and not below half of that
(`Float.Model.totalExponent`). Rounding keeps the size, or raises it by one, at the next
power of two; only what is below the least number there is can become that number or zero.

A number is below `2 ^ k` (`Linkage.IsBelow`) if it is finite and of a size of at most `k`.
Bounds of this kind go through the operations, one place being lost to rounding in each. They
are coarse, but they say of any chain of operations that ends with a finite number how far
the end can be from the beginning.

## Main results

* `Linkage.rounded_roundWithAccuracy`: what rounding does to the size.
* `Linkage.unpack_pack_of_rounded`: what is rounded is kept as it is, or is infinite.
* `Linkage.IsBelow.add`, `Linkage.IsBelow.mul`, `Linkage.IsBelow.sqrt`: bounds go through.
* `Linkage.div_ne_zero_of_size`: a quotient of numbers of similar size is not zero.
-/

namespace Linkage

open Float.Model Float.Model.UnpackedFloat

/-! ### Binary digits -/

/-- Digits that are dropped are missing. -/
theorem log2_div_two_pow (m k : Nat) : (m / 2 ^ k).log2 = m.log2 - k := by
  rw [Nat.log2_eq_log_two, Nat.log2_eq_log_two, Nat.log_div_base_pow]

theorem log2_mono {m n : Nat} (h : m ≤ n) : m.log2 ≤ n.log2 := by
  rw [Nat.log2_eq_log_two, Nat.log2_eq_log_two]
  exact Nat.log_mono_right h

theorem log2_shiftLeft {m : Nat} (hm : 0 < m) (k : Nat) : (m <<< k).log2 = m.log2 + k := by
  have hpos : 0 < 2 ^ k := Nat.two_pow_pos k
  have hlow := Nat.log2_self_le (Nat.ne_of_gt hm)
  have hhigh := @Nat.lt_log2_self m
  rw [Nat.shiftLeft_eq, Nat.log2_eq_iff (Nat.ne_of_gt (Nat.mul_pos hm hpos)), Nat.pow_add,
    show m.log2 + k + 1 = m.log2 + 1 + k by omega, Nat.pow_add _ _ k]
  exact ⟨Nat.mul_le_mul_right _ hlow, Nat.mul_lt_mul_of_pos_right hhigh hpos⟩

/-- A product has as many digits as its factors together, or one less. -/
theorem log2_mul {m n : Nat} (hm : 0 < m) (hn : 0 < n) :
    m.log2 + n.log2 ≤ (m * n).log2 ∧ (m * n).log2 ≤ m.log2 + n.log2 + 1 := by
  have hne : m * n ≠ 0 := Nat.ne_of_gt (Nat.mul_pos hm hn)
  constructor
  · rw [Nat.le_log2 hne, Nat.pow_add]
    exact Nat.mul_le_mul (Nat.log2_self_le (Nat.ne_of_gt hm)) (Nat.log2_self_le (Nat.ne_of_gt hn))
  · have hlt : m * n < 2 ^ (m.log2 + n.log2 + 2) := by
      rw [show m.log2 + n.log2 + 2 = (m.log2 + 1) + (n.log2 + 1) by omega, Nat.pow_add]
      exact Nat.mul_lt_mul'' Nat.lt_log2_self Nat.lt_log2_self
    have := (Nat.log2_lt hne).2 hlt
    omega

/-- A sum has at most one digit more than its terms. -/
theorem log2_add_le {m n k : Nat} (hm : m.log2 ≤ k) (hn : n.log2 ≤ k) : (m + n).log2 ≤ k + 1 := by
  rcases Nat.eq_zero_or_pos (m + n) with h | h
  · rw [h, Nat.log2_zero]
    exact Nat.zero_le _
  · have hbound : ∀ a : Nat, a.log2 ≤ k → a < 2 ^ (k + 1) := fun a ha =>
      Nat.lt_of_lt_of_le Nat.lt_log2_self (Nat.pow_le_pow_right (by omega) (by omega))
    have hlt : m + n < 2 ^ (k + 2) := by
      have := hbound m hm
      have := hbound n hn
      rw [Nat.pow_succ]
      omega
    have := (Nat.log2_lt (Nat.ne_of_gt h)).2 hlt
    omega

/-- A square root has half the digits. -/
theorem log2_sqrt {m : Nat} (hm : 0 < m) : (Nat.sqrt m).log2 = m.log2 / 2 := by
  have hlow := Nat.log2_self_le (Nat.ne_of_gt hm)
  have hhigh := @Nat.lt_log2_self m
  rw [Nat.log2_eq_iff (Nat.ne_of_gt (Nat.sqrt_pos.2 hm)), Nat.le_sqrt', Nat.sqrt_lt', ← Nat.pow_mul,
    ← Nat.pow_mul]
  exact ⟨Nat.le_trans (Nat.pow_le_pow_right (by omega) (by omega)) hlow,
    Nat.lt_of_lt_of_le hhigh (Nat.pow_le_pow_right (by omega) (by omega))⟩

/-- A quotient lacks about the digits of the divisor. -/
theorem le_log2_div {m n k : Nat} (hn : 0 < n) (h : n.log2 + 1 + k ≤ m.log2) :
    0 < m / n ∧ k ≤ (m / n).log2 := by
  have hm : m ≠ 0 := by
    rintro rfl
    rw [Nat.log2_zero] at h
    omega
  have hle : 2 ^ k ≤ m / n := by
    rw [Nat.le_div_iff_mul_le hn]
    calc
      2 ^ k * n ≤ 2 ^ k * 2 ^ (n.log2 + 1) :=
        Nat.mul_le_mul_left _ (Nat.le_of_lt Nat.lt_log2_self)
      _ = 2 ^ (n.log2 + 1 + k) := by rw [← Nat.pow_add, Nat.add_comm]
      _ ≤ m := (Nat.le_log2 hm).1 h
  have hpos : 0 < m / n := Nat.lt_of_lt_of_le (Nat.two_pow_pos k) hle
  exact ⟨hpos, (Nat.le_log2 (Nat.ne_of_gt hpos)).2 hle⟩

/-! ### Rounding -/

/-- **How many digits are left** when a mantissa is shifted. -/
theorem mantissa_shiftRight (em : ExtendedMantissa) (k : Nat) :
    (em >>> k).mantissa = em.mantissa / 2 ^ k := by
  induction k with
  | zero => exact (Nat.div_one _).symm
  | succ k ih =>
    change (em >>> k).mantissa / 2 = _
    rw [ih, Nat.div_div_eq_div_mul, Nat.pow_succ]

theorem mantissa_ofMantissaAndAccuracy (m : Nat) (a : Accuracy) :
    (ExtendedMantissa.ofMantissaAndAccuracy m a).mantissa = m := by
  rcases a with _ | o
  · rfl
  · cases o <;> rfl

/-- Rounding adds one to a mantissa, or nothing. -/
theorem roundedMantissa_eq_or (em : ExtendedMantissa) :
    em.roundedMantissa = em.mantissa ∨ em.roundedMantissa = em.mantissa + 1 := by
  obtain ⟨m, r, s⟩ := em
  have heven : m + m % 2 = m ∨ m + m % 2 = m + 1 := by omega
  cases r <;> cases s
  · exact Or.inl rfl
  · exact Or.inl rfl
  · exact heven
  · exact Or.inr rfl

/-- **Where a number without bound keeps a mantissa and an exponent.** -/
def IsSettled (m : Nat) (e : Int) : Prop := m < 2 ^ 53 ∧ -1074 ≤ e ∧ (2 ^ 52 ≤ m ∨ e = -1074)

/-- **What a number of size `t` can be rounded to**, the sign aside. -/
inductive Rounded (s : Sign) (t : Int) : UnpackedFloat → Prop
  /-- Zero, if it is below half of the least number. -/
  | zero (h : t < -1073) : Rounded s t (.zero s)
  /-- A number of the same size or the next, or the least number. -/
  | finite {m : Nat} {e : Int} (hm : 0 < m) (hsettled : IsSettled m e)
      (hle : t ≤ totalExponent m e) (hge : totalExponent m e ≤ max (t + 1) (-1073)) :
      Rounded s t (.finite s m e hm)

/-- How far a mantissa is shifted before it is rounded. -/
def shiftOf (m : Nat) (e : Int) : Nat := (max (totalExponent m e - 53) (-1074) - e).toNat

/-- **Rounding is a shift, one more or none, and a second shift** should there be a digit too
many by then. -/
theorem exists_roundWithAccuracy_eq (s : Sign) (m : Nat) (e : Int) (a : Accuracy) :
    ∃ r, (r = m / 2 ^ shiftOf m e ∨ r = m / 2 ^ shiftOf m e + 1) ∧
      roundWithAccuracy .binary64 s m e a =
        if h : r / 2 ^ shiftOf r (e + shiftOf m e) = 0 then .zero s
        else .finite s (r / 2 ^ shiftOf r (e + shiftOf m e))
          (e + shiftOf m e + shiftOf r (e + shiftOf m e)) (Nat.pos_of_ne_zero h) := by
  have hor := roundedMantissa_eq_or (ExtendedMantissa.ofMantissaAndAccuracy m a >>> shiftOf m e)
  rw [mantissa_shiftRight, mantissa_ofMantissaAndAccuracy] at hor
  refine ⟨_, hor, ?_⟩
  unfold roundWithAccuracy shiftToTargetExponent shiftToExponent
  simp only [mantissa_shiftRight, mantissa_ofMantissaAndAccuracy]
  rfl

/-- The first shift leaves what can be kept: either no digit too many, or the least exponent. -/
theorem isSettled_shift {m : Nat} {e : Int} (h : 52 ≤ m.log2 ∨ e ≤ -1074) :
    IsSettled (m / 2 ^ shiftOf m e) (e + shiftOf m e) := by
  have hshift : e + shiftOf m e = max (m.log2 + e - 52) (-1074) := by
    rw [shiftOf, totalExponent]
    omega
  have hdigits := log2_div_two_pow m (shiftOf m e)
  refine ⟨?_, by omega, ?_⟩
  · exact Nat.lt_of_lt_of_le Nat.lt_log2_self (Nat.pow_le_pow_right (by omega) (by omega))
  · by_cases hleast : e + shiftOf m e = -1074
    · exact Or.inr hleast
    · have hne : m / 2 ^ shiftOf m e ≠ 0 := by
        intro hzero
        rw [hzero, Nat.log2_zero] at hdigits
        omega
      exact Or.inl ((Nat.le_log2 hne).1 (by omega))

/-- What has no digit too many is not shifted, -/
theorem shiftOf_eq_zero {r : Nat} {e : Int} (hr : r < 2 ^ 53) (he : -1074 ≤ e) :
    shiftOf r e = 0 := by
  have hlog : r.log2 ≤ 52 := by
    rw [show 52 = (2 ^ 53 - 1).log2 by decide]
    exact log2_mono (by omega)
  rw [shiftOf, totalExponent]
  omega

/-- and what has one by rounding is shifted by one. -/
theorem shiftOf_two_pow {e : Int} (he : -1074 ≤ e) : shiftOf (2 ^ 53) e = 1 := by
  rw [shiftOf, totalExponent, Nat.log2_two_pow]
  omega

/-- **The second shift** keeps what the first has left and rounding has raised, or not. -/
theorem rounded_of_settled (s : Sign) {t e : Int} {q r : Nat} (hq : IsSettled q e)
    (hr : r = q ∨ r = q + 1) (hpos : 0 < q → t = totalExponent q e) (hzero : q = 0 → t < -1073) :
    Rounded s t
      (if h : r / 2 ^ shiftOf r e = 0 then .zero s
        else .finite s (r / 2 ^ shiftOf r e) (e + shiftOf r e) (Nat.pos_of_ne_zero h)) := by
  obtain ⟨hlt, hleast, hplace⟩ := hq
  by_cases hcarry : r < 2 ^ 53
  · have hsettled : IsSettled r e := ⟨hcarry, hleast, hplace.imp_left (by omega)⟩
    simp only [shiftOf_eq_zero hcarry hleast, Nat.pow_zero, Nat.div_one, Int.natCast_zero,
      Int.add_zero]
    split
    · exact .zero (hzero (by omega))
    · rcases Nat.eq_zero_or_pos q with rfl | hqpos
      · obtain rfl : r = 1 := by omega
        have he : e = -1074 := hplace.resolve_left (by decide)
        have hlow := hzero rfl
        have hsize : totalExponent 1 e = -1073 := by
          rw [he]
          rfl
        exact .finite _ hsettled (by omega) (by omega)
      · have hdouble := Nat.log2_two_mul (Nat.ne_of_gt hqpos)
        have hlow : q.log2 ≤ r.log2 := log2_mono (by omega)
        have hhigh : r.log2 ≤ (2 * q).log2 := log2_mono (by omega)
        have ht := hpos hqpos
        rw [totalExponent] at ht
        exact .finite _ hsettled (by rw [totalExponent]; omega) (by rw [totalExponent]; omega)
  · obtain ⟨rfl, rfl⟩ : q = 2 ^ 53 - 1 ∧ r = 2 ^ 53 := by omega
    have ht := hpos (by decide)
    have hlog : (2 ^ 53 - 1 : Nat).log2 = 52 := by decide
    have hlog' : (2 ^ 53 / 2 ^ 1 : Nat).log2 = 52 := by decide
    simp only [shiftOf_two_pow hleast]
    rw [dif_neg (by decide)]
    rw [totalExponent, hlog] at ht
    have hsize : totalExponent (2 ^ 53 / 2 ^ 1) (e + (1 : Nat)) = e + 54 := by
      rw [totalExponent, hlog']
      omega
    exact .finite _ ⟨by decide, by omega, Or.inl (by decide)⟩ (by omega) (by omega)

/-- **Rounding keeps the size, or raises it by one**, of what has digits enough to begin with. -/
theorem rounded_roundWithAccuracy (s : Sign) {m : Nat} {e : Int} (a : Accuracy) (hm : 0 < m)
    (h : 52 ≤ m.log2 ∨ e ≤ -1074) :
    Rounded s (totalExponent m e) (roundWithAccuracy .binary64 s m e a) := by
  obtain ⟨r, hr, heq⟩ := exists_roundWithAccuracy_eq s m e a
  have hsettled := isSettled_shift h
  have hdigits := log2_div_two_pow m (shiftOf m e)
  have hlost : m / 2 ^ shiftOf m e = 0 ↔ m.log2 < shiftOf m e := by
    rw [Nat.div_eq_zero_iff_lt (Nat.two_pow_pos _), Nat.log2_lt (Nat.ne_of_gt hm)]
  rw [heq]
  refine rounded_of_settled s hsettled hr (fun hpos => ?_) fun hzero => ?_
  · rw [totalExponent, totalExponent, hdigits]
    have := mt hlost.2 (Nat.ne_of_gt hpos)
    omega
  · have hlow := hlost.1 hzero
    obtain ⟨-, -, hplace⟩ := hsettled
    have hleast := hplace.resolve_left (by omega)
    rw [totalExponent]
    omega

/-- What is given more digits is of the same size. -/
theorem totalExponent_decreaseExponent {m : Nat} (hm : 0 < m) (e target : Int) :
    0 < (decreaseExponent m e target).1 ∧
      totalExponent (decreaseExponent m e target).1 (decreaseExponent m e target).2 =
        totalExponent m e ∧
      (decreaseExponent m e target).2 = min e target := by
  have hlog := log2_shiftLeft hm (e - target).toNat
  simp only [decreaseExponent, totalExponent, hlog]
  exact ⟨Nat.shiftLeft_pos_iff.2 hm, by omega, by omega⟩

/-- The same of a number that need not have digits enough. -/
theorem rounded_round (s : Sign) {m : Nat} (hm : 0 < m) (e : Int) :
    Rounded s (totalExponent m e) (UnpackedFloat.round .binary64 s m e) := by
  obtain ⟨hpos, hsize, hexponent⟩ :=
    totalExponent_decreaseExponent hm e (max (totalExponent m e - 53) (-1074))
  rw [← hsize]
  refine rounded_roundWithAccuracy s .exact hpos ?_
  rw [totalExponent] at hsize
  omega

/-- An integer, at any exponent, is rounded unless it is zero. -/
theorem rounded_normalize {n : Int} (hn : n ≠ 0) (e : Int) (zero : Sign) :
    ∃ s, Rounded s (totalExponent n.natAbs e) (UnpackedFloat.normalize .binary64 n e zero) := by
  rw [UnpackedFloat.normalize]
  rcases Int.lt_trichotomy n 0 with h | h | h
  · rw [Int.compare_eq_lt.2 h, show (-n).toNat = n.natAbs by omega]
    exact ⟨_, rounded_round _ (by omega) e⟩
  · exact absurd h hn
  · rw [Int.compare_eq_gt.2 h, show n.toNat = n.natAbs by omega]
    exact ⟨_, rounded_round _ (by omega) e⟩

/-! ### Keeping what is rounded -/

/-- What is rounded beyond the last exponent is infinite. -/
theorem unpack_pack_of_lt {s : Sign} {m : Nat} {e : Int} (hm : 0 < m) (he : 971 < e) :
    UnpackedFloat.unpack .binary64 (UnpackedFloat.pack .binary64 (.finite s m e hm)) =
      .infinity s := by
  have hlarge : 2 ^ 11 ≤ (e + (1023 : Nat) + (52 : Nat)).toNat + 1 := by omega
  have hpack : UnpackedFloat.pack .binary64 (.finite s m e hm) =
      packComponents .binary64 s (-1#11) 0#52 :=
    if_pos hlarge
  rw [hpack, unpack_packComponents]
  rfl

/-- **What is rounded is kept as it is, or is infinite.** -/
theorem unpack_pack_of_rounded {s : Sign} {t : Int} {u : UnpackedFloat} (h : Rounded s t u) :
    (Float.Model.pack u).unpack = u ∨ (Float.Model.pack u).unpack = .infinity s := by
  cases h with
  | zero => exact Or.inl (by cases s <;> rfl)
  | @finite m e hm hsettled =>
    obtain ⟨hlt, hleast, hplace⟩ := hsettled
    by_cases he : e ≤ 971
    · exact Or.inl (unpack_pack hm ⟨hlt, hleast, he, hplace⟩)
    · exact Or.inr (unpack_pack_of_lt hm (by omega))

/-- What is finite once it is rounded is no larger than the largest number. -/
theorem Rounded.size_le {s : Sign} {t : Int} {u : UnpackedFloat} (h : Rounded s t u)
    (hfinite : (Float.Model.pack u).isFinite = true) : t ≤ 1024 := by
  rcases unpack_pack_of_rounded h with heq | heq
  · cases h with
    | zero ht => omega
    | @finite m e hm _ hle _ =>
      obtain ⟨hlt, -, he, -⟩ := isPlaced_of_ofParts heq
      have hlog := (Nat.log2_lt (Nat.ne_of_gt hm)).2 hlt
      rw [totalExponent] at hle
      omega
  · rw [Float.Model.isFinite, heq] at hfinite
    cases hfinite

/-- Parts make a number unless the exponent is the last and the mantissa is not zero. -/
theorem ofParts_ne {s : Sign} {e : BitVec 11} {m : BitVec 52} (h : e = -1#11 → m = 0#52) :
    ofParts s e m ≠ .notANumber := by
  rw [ofParts]
  intro heq
  split at heq
  · next he =>
    rw [if_pos (h he)] at heq
    cases heq
  · split at heq
    · split at heq <;> cases heq
    · cases heq

/-- What has a mantissa is packed as a number, in place or not. -/
theorem unpack_pack_finite_ne {s : Sign} {m : Nat} {e : Int} (hm : 0 < m) :
    (Float.Model.pack (.finite s m e hm)).unpack ≠ .notANumber := by
  change UnpackedFloat.unpack .binary64 (UnpackedFloat.pack .binary64 (.finite s m e hm)) ≠ _
  rw [UnpackedFloat.pack]
  simp only
  split
  · rw [packedInfinity, unpack_packComponents]
    exact ofParts_ne fun _ => rfl
  · next hsmall =>
    have hlast : BitVec.ofNat 11 (e + (1023 : Nat) + (52 : Nat)).toNat ≠ -1#11 := by
      intro h
      have hmod := congrArg BitVec.toNat h
      rw [BitVec.toNat_ofNat] at hmod
      change _ = 2047 at hmod
      change ¬2 ^ 11 ≤ (e + (1023 : Nat) + (52 : Nat)).toNat + 1 at hsmall
      omega
    split
    · rw [unpack_packComponents]
      exact ofParts_ne fun h => absurd h hlast
    · rw [unpack_packComponents]
      exact ofParts_ne fun h => absurd h (by decide)

/-- Rounding leaves a number, however few digits there are. -/
theorem unpack_pack_roundWithAccuracy_ne (s : Sign) (m : Nat) (e : Int) (a : Accuracy) :
    (Float.Model.pack (roundWithAccuracy .binary64 s m e a)).unpack ≠ .notANumber := by
  obtain ⟨r, -, heq⟩ := exists_roundWithAccuracy_eq s m e a
  rw [heq]
  split
  · cases s <;> exact nofun
  · exact unpack_pack_finite_ne _

/-! ### What is finite comes of what is finite -/

section Operands

variable {x y : Float}

/-- What is not finite is packed as such. -/
theorem isFinite_of_isFinite_pack {u : UnpackedFloat} (h : (Float.Model.pack u).isFinite = true) :
    u.isFinite = true := by
  have hinfinity : ∀ s, (Float.Model.pack (.infinity s)).isFinite = false := fun s => by
    cases s <;> rfl
  cases u with
  | infinity s => cases (hinfinity s).symm.trans h
  | notANumber => cases (rfl : (Float.Model.pack .notANumber).isFinite = false).symm.trans h
  | zero | finite => rfl

/-- Factors are finite if their product is, -/
theorem isFinite_of_isFinite_mul (h : (x * y).isFinite = true) :
    x.isFinite = true ∧ y.isFinite = true := by
  replace h := isFinite_of_isFinite_pack h
  change x.toModel.unpack.isFinite = true ∧ y.toModel.unpack.isFinite = true
  generalize x.toModel.unpack = u, y.toModel.unpack = v at h ⊢
  cases u <;> cases v <;> first
    | exact ⟨rfl, rfl⟩
    | cases h

/-- terms if their sum is, -/
theorem isFinite_of_isFinite_add (h : (x + y).isFinite = true) :
    x.isFinite = true ∧ y.isFinite = true := by
  replace h := isFinite_of_isFinite_pack h
  change x.toModel.unpack.isFinite = true ∧ y.toModel.unpack.isFinite = true
  generalize x.toModel.unpack = u, y.toModel.unpack = v at h ⊢
  cases u <;> cases v
  case infinity.infinity s s' => cases s <;> cases s' <;> cases h
  all_goals first
    | exact ⟨rfl, rfl⟩
    | cases h

/-- and a number if its square root is. -/
theorem isFinite_of_isFinite_sqrt (h : x.sqrt.isFinite = true) : x.isFinite = true := by
  replace h := isFinite_of_isFinite_pack h
  change x.toModel.unpack.isFinite = true
  generalize x.toModel.unpack = u at h ⊢
  cases u with
  | infinity s => cases s <;> cases h
  | notANumber => cases h
  | zero | finite => rfl

end Operands

/-! ### Numbers below a power of two -/

/-- **What is finite and of a size of at most `k`**, and in place. -/
inductive Below (k : Int) : UnpackedFloat → Prop
  | zero {s : Sign} : Below k (.zero s)
  | finite {s : Sign} {m : Nat} {e : Int} {hm : 0 < m} (hplaced : IsPlaced m e)
      (h : totalExponent m e ≤ k) : Below k (.finite s m e hm)

/-- **A number below `2 ^ k`**, the sign aside. -/
def IsBelow (k : Int) (x : Float) : Prop := Below k x.toModel.unpack

section Below

variable {u v : UnpackedFloat} {k l : Int}

theorem Below.mono (hu : Below k u) (h : k ≤ l) : Below l u := by
  cases hu with
  | zero => exact .zero
  | finite hplaced hsize => exact .finite hplaced (Int.le_trans hsize h)

/-- Zero is kept as it is, whatever its sign. -/
theorem unpack_pack_zero (s : Sign) : (Float.Model.pack (.zero s)).unpack = .zero s := by
  cases s <;> rfl

/-- What is below a power of two is kept as it is. -/
theorem Below.unpack_pack (hu : Below k u) : (Float.Model.pack u).unpack = u := by
  cases hu with
  | zero => exact unpack_pack_zero _
  | @finite _ _ _ hm hplaced => exact Linkage.unpack_pack hm hplaced

/-- What is of size `t` is below the next power of two once it is rounded, if it is finite. -/
theorem Rounded.below {s : Sign} {t : Int} (h : Rounded s t u)
    (hfinite : (Float.Model.pack u).isFinite = true) (ht : t + 1 ≤ k) (hk : -1073 ≤ k) :
    Below k (Float.Model.pack u).unpack := by
  rcases unpack_pack_of_rounded h with heq | heq
  · cases h with
    | zero =>
      rw [heq]
      exact .zero
    | finite _ _ _ hge =>
      have hplaced := isPlaced_of_ofParts heq
      rw [heq]
      exact .finite hplaced (by omega)
  · rw [Float.Model.isFinite, heq] at hfinite
    cases hfinite

/-- A mantissa that is in place has digits enough, or the least exponent. -/
theorem IsPlaced.digits {m : Nat} {e : Int} (h : IsPlaced m e) (hm : 0 < m) :
    52 ≤ m.log2 ∨ e = -1074 :=
  h.2.2.2.imp_left (Nat.le_log2 (Nat.ne_of_gt hm)).2

/-- **Products** are of the size of the factors together. -/
theorem Below.mul (hu : Below k u) (hv : Below l v)
    (hfinite : (Float.Model.pack (u.mul .binary64 v)).isFinite = true) (hkl : -1074 ≤ k + l) :
    Below (k + l + 1) (Float.Model.pack (u.mul .binary64 v)).unpack := by
  have hzero : ∀ s, Below (k + l + 1) (Float.Model.pack (.zero s)).unpack := fun s => by
    rw [unpack_pack_zero]
    exact .zero
  cases hu with
  | zero => cases hv <;> exact hzero _
  | @finite _ m e hm hplaced hsize =>
    cases hv with
    | zero => exact hzero _
    | @finite _ m' e' hm' hplaced' hsize' =>
      obtain ⟨hlow, hhigh⟩ := log2_mul hm hm'
      have hdigits := hplaced.digits hm
      have hdigits' := hplaced'.digits hm'
      refine (rounded_roundWithAccuracy _ .exact (Nat.mul_pos hm hm') ?_).below hfinite ?_
        (by omega)
      · omega
      · rw [totalExponent] at hsize hsize' ⊢
        omega

/-- A sum of integers with signs is no larger than the integers together. -/
theorem natAbs_apply_add_le (s s' : Sign) (m m' : Nat) :
    (s.apply m + s'.apply m').natAbs ≤ m + m' := by
  cases s <;> cases s' <;> (simp only [Sign.apply]; omega)

/-- **Sums** are of the size of the larger term, or the next. -/
theorem Below.add (hu : Below k u) (hv : Below k v)
    (hfinite : (Float.Model.pack (u.add .binary64 v)).isFinite = true) (hk : -1074 ≤ k) :
    Below (k + 2) (Float.Model.pack (u.add .binary64 v)).unpack := by
  have hkept : ∀ w, Below k w → Below (k + 2) (Float.Model.pack w).unpack := fun w hw => by
    rw [hw.unpack_pack]
    exact hw.mono (by omega)
  cases hu with
  | @zero s =>
    cases hv with
    | @zero s' =>
      have hzero : ∃ s'', UnpackedFloat.add .binary64 (.zero s) (.zero s') = .zero s'' := by
        cases s <;> cases s' <;> exact ⟨_, rfl⟩
      obtain ⟨s'', h⟩ := hzero
      rw [h]
      exact hkept _ .zero
    | finite hplaced hsize => exact hkept _ (.finite hplaced hsize)
  | @finite s m e hm hplaced hsize =>
    cases hv with
    | zero => exact hkept _ (.finite hplaced hsize)
    | @finite s' m' e' hm' hplaced' hsize' =>
      obtain ⟨hpos, hleft, hexponent⟩ := totalExponent_decreaseExponent hm e (min e e')
      obtain ⟨hpos', hright, hexponent'⟩ := totalExponent_decreaseExponent hm' e' (min e e')
      rw [hexponent, totalExponent] at hleft
      rw [hexponent', totalExponent] at hright
      have hsum : UnpackedFloat.add .binary64 (.finite s m e hm) (.finite s' m' e' hm') =
          UnpackedFloat.normalize .binary64 (s.apply (decreaseExponent m e (min e e')).1 +
            s'.apply (decreaseExponent m' e' (min e e')).1) (min e e') .positive := rfl
      have hnatAbs := natAbs_apply_add_le s s' (decreaseExponent m e (min e e')).1
        (decreaseExponent m' e' (min e e')).1
      rw [hsum] at hfinite ⊢
      generalize (decreaseExponent m e (min e e')).1 = a at *
      generalize (decreaseExponent m' e' (min e e')).1 = b at *
      by_cases hne : s.apply a + s'.apply b = 0
      · rw [hne]
        exact hkept _ .zero
      · obtain ⟨t, ht⟩ := rounded_normalize hne (min e e') .positive
        refine ht.below hfinite ?_ (by omega)
        have hdigits : (s.apply a + s'.apply b).natAbs.log2 ≤ (k - 1 - min e e').toNat + 1 :=
          Nat.le_trans (log2_mono hnatAbs) (log2_add_le (by omega) (by omega))
        rw [totalExponent]
        omega

/-- **Square roots** are of half the size. -/
theorem Below.sqrt (hu : Below (2 * k) u)
    (hfinite : (Float.Model.pack (u.sqrt .binary64)).isFinite = true) (hk : -1074 ≤ k) :
    Below (k + 1) (Float.Model.pack (u.sqrt .binary64)).unpack := by
  cases hu with
  | @zero s =>
    change Below (k + 1) (Float.Model.pack (.zero s)).unpack
    rw [unpack_pack_zero]
    exact .zero
  | @finite s m e hm hplaced hsize =>
    cases s with
    | negative =>
      have hnan : (Float.Model.pack .notANumber).isFinite = false := rfl
      cases hnan.symm.trans hfinite
    | positive =>
      -- The exponent of the root, and by how much the digits are shifted before it is taken.
      obtain ⟨f, hf⟩ : ∃ f, f = min (e / 2) (max ((totalExponent m e + 1) / 2 - 53) (-1074)) :=
        ⟨_, rfl⟩
      obtain ⟨d, hd⟩ : ∃ d, d = (e - 2 * f).toNat := ⟨_, rfl⟩
      obtain ⟨a, ha⟩ : ∃ a, UnpackedFloat.sqrt .binary64 (.finite .positive m e hm) =
          roundWithAccuracy .binary64 .positive (Nat.sqrt (m <<< d)) f a := by
        subst hd hf
        exact ⟨_, rfl⟩
      have hshift := log2_shiftLeft hm d
      have hpos : 0 < m <<< d := Nat.shiftLeft_pos_iff.2 hm
      have hroot := log2_sqrt hpos
      rw [totalExponent] at hf hsize
      rw [ha] at hfinite ⊢
      refine (rounded_roundWithAccuracy _ a (Nat.sqrt_pos.2 hpos) ?_).below hfinite ?_ (by omega)
      · omega
      · rw [totalExponent]
        omega

/-- **A quotient is not zero** if the size of its dividend is not far below that of its
divisor. -/
theorem div_ne_zero_of_size {s s' s'' : Sign} {m m' : Nat} {e e' : Int} (hm : 0 < m) (hm' : 0 < m')
    (h : totalExponent m' e' ≤ totalExponent m e + 1000) :
    (Float.Model.pack
      (UnpackedFloat.div .binary64 (.finite s m e hm) (.finite s' m' e' hm'))).unpack ≠
      .zero s'' := by
  obtain ⟨f, hf⟩ : ∃ f, f = min (e - e')
      (max (totalExponent m e - totalExponent m' e' - 53) (-1074)) := ⟨_, rfl⟩
  obtain ⟨d, hd⟩ : ∃ d, d = (e - e' - f).toNat := ⟨_, rfl⟩
  obtain ⟨a, ha⟩ : ∃ a, UnpackedFloat.div .binary64 (.finite s m e hm) (.finite s' m' e' hm') =
      roundWithAccuracy .binary64 (s / s') ((m <<< d) / m') f a := by
    subst hd hf
    exact ⟨_, rfl⟩
  have hshift := log2_shiftLeft hm d
  rw [totalExponent, totalExponent] at h hf
  -- The dividend has been given digits enough for those that the quotient needs.
  obtain ⟨hpos, hdigits⟩ := le_log2_div hm'
    (show m'.log2 + 1 + ((m <<< d).log2 - m'.log2 - 1) ≤ (m <<< d).log2 by omega)
  have hrounded := rounded_roundWithAccuracy (s / s') a hpos (Or.inl (by omega) : _ ∨ f ≤ -1074)
  rw [ha]
  intro hzero
  rcases unpack_pack_of_rounded hrounded with heq | heq
  · rw [hzero] at heq
    rw [← heq] at hrounded
    cases hrounded with
    | zero hlow =>
      rw [totalExponent] at hlow
      omega
  · rw [hzero] at heq
    cases heq

end Below

section IsBelow

variable {x y : Float} {k l : Int}

theorem IsBelow.mono (hx : IsBelow k x) (h : k ≤ l) : IsBelow l x := Below.mono hx h

/-- **Bounds of factors** make a bound of the product, -/
theorem IsBelow.mul (hx : IsBelow k x) (hy : IsBelow l y) (h : (x * y).isFinite = true)
    (hkl : -1074 ≤ k + l) : IsBelow (k + l + 1) (x * y) :=
  Below.mul hx hy h hkl

/-- **bounds of terms** one of the sum, -/
theorem IsBelow.add (hx : IsBelow k x) (hy : IsBelow k y) (h : (x + y).isFinite = true)
    (hk : -1074 ≤ k) : IsBelow (k + 2) (x + y) :=
  Below.add hx hy h hk

/-- **and a bound of a number** one of its square root. -/
theorem IsBelow.sqrt (hx : IsBelow (2 * k) x) (h : x.sqrt.isFinite = true) (hk : -1074 ≤ k) :
    IsBelow (k + 1) x.sqrt :=
  Below.sqrt hx h hk

end IsBelow

end Linkage
