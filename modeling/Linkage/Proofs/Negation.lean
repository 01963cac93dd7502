import Linkage.Scalar
import Mathlib.Algebra.Group.Nat.Defs

/-!
# Opposite numbers

A binary64 number is computed with by taking it apart, into a sign, a mantissa and an exponent,
and putting the result together again. So a fact about the opposite of a number is a fact about
signs only once it is known that nothing is lost in between. That is so because what is put
together came out of a number: its mantissa and exponent are in the place that a number has for
them (`Linkage.IsPlaced`).

* `Linkage.unpack_neg` – the opposite of a number is the number with the other sign;
* `Linkage.neg_le_neg_iff` – going over to opposites turns comparisons round;
* `Linkage.neg_le_self_iff` – the numbers that are not below their opposites are those that
  are not below zero.

None of this asks the numbers to be finite, or to be numbers: what is not a number compares
with nothing, and neither does its opposite.
-/

namespace Linkage

open Float.Model Float.Model.UnpackedFloat

/-! ### Taking apart and putting together -/

/-- The sign of a number put together is the one it was given. -/
theorem unpackSign_packComponents (s : Sign) (e : BitVec 11) (m : BitVec 52) :
    Sign.ofBitVec (unpackSign (packComponents .binary64 s e m)) = s := by
  have hsign : unpackSign (packComponents .binary64 s e m) = s.toBitVec := by
    change (s.toBitVec ++ e ++ m).extractLsb' 63 1 = s.toBitVec
    rw [BitVec.extractLsb'_append_eq_of_le (by omega),
      BitVec.extractLsb'_append_eq_of_le (by omega), BitVec.extractLsb'_eq_self]
  rw [hsign]
  cases s <;> rfl

/-- A mantissa of 52 bits after a bit that is set. -/
theorem toNat_one_append (m : BitVec 52) : (1#1 ++ m).toNat = 2 ^ 52 + m.toNat := by
  rw [BitVec.toNat_append, ← Nat.shiftLeft_add_eq_or_of_lt m.isLt]
  rfl

/-- **The number of a sign, an exponent and a mantissa**, as they stand in its bits. Under the
last exponent there are no finite numbers, and under the first the mantissa is all there is. -/
def ofParts (s : Sign) (e : BitVec 11) (m : BitVec 52) : UnpackedFloat :=
  if e = -1#11 then if m = 0#52 then .infinity s else .notANumber
  else if e = 0#11 then
    if h : m = 0#52 then .zero s
    else .finite s m.toNat (e.toNat - 1075 + 1)
      (Nat.pos_of_ne_zero fun hm => h (BitVec.eq_of_toNat_eq hm))
  else .finite s (1#1 ++ m).toNat (e.toNat - 1075) (by rw [toNat_one_append]; omega)

theorem unpack_eq_ofParts (b : BitVec 64) :
    UnpackedFloat.unpack .binary64 b =
      ofParts (Sign.ofBitVec (@unpackSign .binary64 b)) (@unpackExponent .binary64 b)
        (@unpackMantissa .binary64 b) := rfl

theorem unpack_packComponents (s : Sign) (e : BitVec 11) (m : BitVec 52) :
    UnpackedFloat.unpack .binary64 (packComponents .binary64 s e m) = ofParts s e m := by
  rw [unpack_eq_ofParts, unpackSign_packComponents, unpackExponent_packComponents,
    unpackMantissa_packComponents]

/-- **Where a number keeps a mantissa and an exponent**: the mantissa has 53 bits, the first of
them set unless the exponent is the least there is. -/
def IsPlaced (m : Nat) (e : Int) : Prop :=
  m < 2 ^ 53 ∧ -1074 ≤ e ∧ e ≤ 971 ∧ (2 ^ 52 ≤ m ∨ e = -1074)

/-- **What comes out of a number is in place.** -/
theorem isPlaced_of_ofParts {s t : Sign} {e : BitVec 11} {m : BitVec 52} {n : Nat} {k : Int}
    {hn : 0 < n} (h : ofParts s e m = .finite t n k hn) : IsPlaced n k := by
  have hm : m.toNat < 2 ^ 52 := m.isLt
  have he : e.toNat < 2 ^ 11 := e.isLt
  rw [ofParts] at h
  by_cases hlast : e = -1#11
  · rw [if_pos hlast] at h
    by_cases hzero : m = 0#52
    · rw [if_pos hzero] at h
      cases h
    · rw [if_neg hzero] at h
      cases h
  rw [if_neg hlast] at h
  by_cases hfirst : e = 0#11
  · rw [if_pos hfirst] at h
    by_cases hzero : m = 0#52
    · rw [dif_pos hzero] at h
      cases h
    · rw [dif_neg hzero] at h
      obtain ⟨-, rfl, rfl⟩ := UnpackedFloat.finite.inj h
      rw [hfirst, BitVec.toNat_zero]
      refine ⟨?_, ?_, ?_, Or.inr ?_⟩ <;> omega
  · rw [if_neg hfirst] at h
    obtain ⟨-, rfl, rfl⟩ := UnpackedFloat.finite.inj h
    have hpos : e.toNat ≠ 0 := fun h => hfirst (BitVec.eq_of_toNat_eq h)
    have hlt : e.toNat ≠ 2 ^ 11 - 1 := fun h => hlast (BitVec.eq_of_toNat_eq h)
    rw [toNat_one_append]
    refine ⟨?_, ?_, ?_, Or.inl ?_⟩ <;> omega

/-- **What is in place comes out again.** The mantissa tells whether its first bit is kept. -/
theorem unpack_pack {s : Sign} {m : Nat} {e : Int} (hm : 0 < m) (h : IsPlaced m e) :
    UnpackedFloat.unpack .binary64 (UnpackedFloat.pack .binary64 (.finite s m e hm)) =
      .finite s m e hm := by
  obtain ⟨hlt, hleast, hmost, hplace⟩ := h
  have hlarge : ¬2 ^ 11 ≤ (e + (1023 : Nat) + (52 : Nat)).toNat + 1 := by omega
  have hpack : UnpackedFloat.pack .binary64 (.finite s m e hm) =
      if m.log2 + 1 = 53 then packComponents .binary64 s
        (BitVec.ofNat 11 (e + (1023 : Nat) + (52 : Nat)).toNat) (BitVec.ofNat 52 m)
      else packComponents .binary64 s 0#11 (BitVec.ofNat 52 m) :=
    if_neg hlarge
  -- A first bit that is set is not kept: the exponent tells that it is there.
  by_cases hfirst : 2 ^ 52 ≤ m
  · have hlog : m.log2 + 1 = 53 := by
      rw [(Nat.log2_eq_iff (Nat.ne_of_gt hm)).2 ⟨hfirst, hlt⟩]
    have hmantissa : 2 ^ 52 + (BitVec.ofNat 52 m).toNat = m := by
      rw [BitVec.toNat_ofNat]
      omega
    generalize hb : BitVec.ofNat 11 (e + (1023 : Nat) + (52 : Nat)).toNat = b at hpack
    have hexponent : b.toNat = (e + 1075).toNat := by
      rw [← hb, BitVec.toNat_ofNat]
      omega
    have hleast' : b ≠ 0#11 := by
      rintro rfl
      rw [BitVec.toNat_zero] at hexponent
      omega
    have hmost' : b ≠ -1#11 := by
      rintro rfl
      change 2047 = _ at hexponent
      omega
    rw [hpack, if_pos hlog, unpack_packComponents, ofParts, if_neg hmost', if_neg hleast']
    congr 1
    · rw [toNat_one_append, hmantissa]
    · omega
  · have hlog : m.log2 + 1 ≠ 53 := by
      have hlt := (Nat.log2_lt (Nat.ne_of_gt hm)).2 (Nat.lt_of_not_le hfirst)
      omega
    have hmantissa : (BitVec.ofNat 52 m).toNat = m := by
      rw [BitVec.toNat_ofNat]
      omega
    have hzero : BitVec.ofNat 52 m ≠ 0#52 := by
      intro h
      rw [h, BitVec.toNat_zero] at hmantissa
      omega
    rw [hpack, if_neg hlog, unpack_packComponents, ofParts, if_neg (by decide), if_pos rfl,
      dif_neg hzero]
    congr 1
    exact (hplace.resolve_left hfirst).symm

/-- **The opposite of a number is the number with the other sign.** -/
theorem unpack_neg (x : Float) : (-x).toModel.unpack = x.toModel.unpack.neg := by
  change UnpackedFloat.unpack .binary64 (UnpackedFloat.pack .binary64 x.toModel.unpack.neg) = _
  rcases hx : x.toModel.unpack with s | _ | s | ⟨s, m, e, hm⟩
  · cases s <;> rfl
  · rfl
  · cases s <;> rfl
  · exact unpack_pack hm (isPlaced_of_ofParts hx)

/-! ### Comparing -/

/-- **Opposites compare the other way round.** -/
theorem compare_neg_neg (a b : UnpackedFloat) : a.neg.compare b.neg = b.compare a := by
  cases a with
  | notANumber => cases b <;> rfl
  | infinity s =>
    cases b with
    | infinity t => cases s <;> cases t <;> rfl
    | notANumber | zero | finite => cases s <;> rfl
  | zero s =>
    cases b with
    | infinity t | finite t => cases t <;> rfl
    | notANumber | zero => rfl
  | finite s m e =>
    cases b with
    | infinity t => cases t <;> rfl
    | notANumber => rfl
    | zero => cases s <;> rfl
    | finite t n f =>
      -- Two numbers with one sign are compared without it, and the outcome is swapped below zero.
      have hswap : ((compare f e).then (compare n m)).swap = (compare e f).then (compare m n) := by
        rw [Ordering.swap_then, Int.compare_swap, Nat.compare_swap]
      cases s <;> cases t
      · exact congrArg some hswap.symm
      · rfl
      · rfl
      · exact congrArg some (by rw [← hswap, Ordering.swap_swap])

/-- Numbers are compared as what is taken out of them. -/
theorem le_iff_compare {x y : Float} :
    x ≤ y ↔ (x.toModel.unpack.compare y.toModel.unpack).any (·.isLE) = true :=
  decide_eq_true_iff

/-- **Going over to opposites turns comparisons round.** -/
theorem neg_le_neg_iff {x y : Float} : -y ≤ -x ↔ x ≤ y := by
  rw [le_iff_compare, le_iff_compare, unpack_neg, unpack_neg, compare_neg_neg]

/-- **The numbers that are not below their opposites** are those that are not below zero. -/
theorem neg_le_self_iff {x : Float} : -x ≤ x ↔ 0 ≤ x := by
  have hzero : (0 : Float).toModel.unpack = .zero .positive := rfl
  rw [le_iff_compare, le_iff_compare, unpack_neg, hzero]
  rcases x.toModel.unpack with s | _ | s | ⟨s, m, e, hm⟩
  · cases s <;> rfl
  · rfl
  · rfl
  · cases s <;> rfl

end Linkage
