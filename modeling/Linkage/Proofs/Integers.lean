import Linkage.Config
import Linkage.Proofs.Rounding

/-!
# The integers in a value

Two limits concern the integers of a configuration. One with too many digits cannot be
written, so that a message cannot show it; one that is too large has no binary64 number
nearest to it, so that it is no setting. Both are said of a value by its integers
(`Linkage.Value.ints`), those inside its collections and keys included.

The second limit is far below the first: a finite number is nearest only to integers of no
more than 1024 binary digits, because rounding does not make a number smaller by more than
its last place. A value whose integers all have a nearest number (`Linkage.Value.Fits`) can
be written, and so can everything inside it.

Taking a member out of a knot ties the knot anew in the member, and brings no integer into it
that the knot does not have.

## Main results

* `Linkage.natAbs_lt_of_ofInt?`: an integer with a nearest number can be written.
* `Linkage.Value.isWritable_iff`: a value can be written if each of its integers can.
* `Linkage.Value.Fits.isWritable`: a value without an integer that is too large can be written.
-/

namespace Linkage

open Float.Model Float.Model.UnpackedFloat

/-! ### The integers with a nearest number -/

/-- An integer is given digits enough, and rounded. -/
theorem rounded_ofScientific {n : Nat} (hn : 0 < n) :
    Rounded (.positive * .positive) (n.log2 + 1) (UnpackedFloat.ofScientific .binary64 n 0) := by
  have hbits : Format.binary64.mantissaBits = 53 := rfl
  have hleast : ¬(0 : Int) < -((2 ^ Format.binary64.exponentBits : Int) + n.log2) := by
    have hpow : (0 : Int) ≤ 2 ^ Format.binary64.exponentBits := by decide
    omega
  -- The digits that are added are as many as are kept, so that rounding has enough to start with.
  have hlog : (n <<< 53 * 10 ^ (0 : Int).toNat).log2 = n.log2 + 53 := by
    rw [Int.toNat_zero, Nat.pow_zero, Nat.mul_one, log2_shiftLeft hn]
  have hpos : 0 < n <<< 53 * 10 ^ (0 : Int).toNat :=
    Nat.mul_pos (Nat.shiftLeft_pos_iff.2 hn) (Nat.pow_pos (by decide))
  unfold UnpackedFloat.ofScientific
  rw [dif_neg (Nat.ne_of_gt hn), if_neg (by decide), if_neg hleast, if_pos (by decide),
    UnpackedFloat.mul, hbits]
  have hrounded := @rounded_roundWithAccuracy (.positive * .positive) _ (-(53 : Nat) + 0) .exact
    hpos (Or.inl (by omega))
  rw [totalExponent, hlog] at hrounded
  convert hrounded using 1
  omega

/-- A finite number is nearest only to natural numbers of no more than 1024 binary digits, -/
theorem log2_lt_of_isFinite_ofNat {n : Nat} (h : (Float.ofNat n).isFinite = true) :
    n.log2 < 1024 := by
  rcases Nat.eq_zero_or_pos n with rfl | hn
  · decide
  -- Below this a number is taken as it is, without the rounding of decimals.
  by_cases hsmall : n < 2 ^ 53
  · exact ((Nat.log2_lt (Nat.ne_of_gt hn)).2 hsmall).trans (by decide)
  have hofNat : Float.ofNat n = Float.ofModel (Float.Model.ofScientific n 0) :=
    dif_neg fun hfast => hsmall hfast.1
  rw [hofNat] at h
  have hsize := (rounded_ofScientific hn).size_le h
  omega

/-- and likewise to integers, whose sign changes nothing. -/
theorem log2_lt_of_ofInt? {n : Int} {x : Float} (h : Scalar.ofInt? n = some x) :
    n.natAbs.log2 < 1024 := by
  obtain ⟨hfinite, -⟩ := Option.ite_none_right_eq_some.1 h
  apply log2_lt_of_isFinite_ofNat
  cases n with
  | ofNat n => exact hfinite
  | negSucc n =>
    change (-Float.ofNat (n + 1)).toModel.unpack.isFinite = true at hfinite
    change (Float.ofNat (n + 1)).toModel.unpack.isFinite = true
    rw [unpack_neg] at hfinite
    cases hu : (Float.ofNat (n + 1)).toModel.unpack with
    | notANumber | infinity =>
      rw [hu] at hfinite
      cases hfinite
    | zero | finite => rfl

theorem two_pow_le_ten_pow (k : Nat) : 2 ^ k ≤ Nat.pow 10 k := Nat.pow_le_pow_left (by decide) k

/-- **An integer with a nearest number can be written.** -/
theorem natAbs_lt_of_ofInt? {n : Int} {x : Float} (h : Scalar.ofInt? n = some x) :
    n.natAbs < Value.digitBound :=
  calc
    n.natAbs < 2 ^ (n.natAbs.log2 + 1) := Nat.lt_log2_self
    _ ≤ 2 ^ Value.digitLimit := Nat.pow_le_pow_right (by decide) (by
      have := log2_lt_of_ofInt? h
      rw [Value.digitLimit]
      omega)
    _ ≤ Value.digitBound := by
      -- Rewriting with the bound would have it worked out.
      delta Value.digitBound
      exact two_pow_le_ten_pow Value.digitLimit

namespace Value

/-! ### The integers of a value -/

mutual

/-- **The integers in a value**, keys included. -/
def ints : Value → List Int
  | int n => [n]
  | list xs => intsAll xs
  | pair a b => ints a ++ ints b
  | mapping entries => intsEntries entries
  | set members => intsAll members
  | knot _ v => ints v
  | _ => []

/-- The integers in the values of a list. -/
def intsAll : List Value → List Int
  | [] => []
  | v :: vs => ints v ++ intsAll vs

/-- The integers in the keys and values of a mapping. -/
def intsEntries : List (Value × Value) → List Int
  | [] => []
  | (k, v) :: rest => ints k ++ ints v ++ intsEntries rest

end

mutual

/-- **A value can be written if each of its integers can.** -/
theorem isWritable_iff : ∀ v : Value, v.isWritable = true ↔ ∀ n ∈ v.ints, n.natAbs < digitBound
  | int n => by simp only [isWritable, ints, decide_eq_true_eq, List.forall_mem_singleton]
  | list xs => by rw [isWritable, ints, areWritable_iff xs]
  | pair a b => by
    rw [isWritable, ints, Bool.and_eq_true, isWritable_iff a, isWritable_iff b,
      List.forall_mem_append]
  | mapping entries => by rw [isWritable, ints, areWritableEntries_iff entries]
  | set members => by rw [isWritable, ints, areWritable_iff members]
  | knot _ v => by rw [isWritable, ints, isWritable_iff v]
  | null | bool _ | float _ | text _ | bytes _ | date .. | moment _ | loop .. =>
    ⟨fun _ => nofun, fun _ => rfl⟩

theorem areWritable_iff :
    ∀ vs : List Value, areWritable vs = true ↔ ∀ n ∈ intsAll vs, n.natAbs < digitBound
  | [] => ⟨fun _ => nofun, fun _ => rfl⟩
  | v :: vs => by
    rw [areWritable, intsAll, Bool.and_eq_true, isWritable_iff v, areWritable_iff vs,
      List.forall_mem_append]

theorem areWritableEntries_iff : ∀ entries : List (Value × Value),
    areWritableEntries entries = true ↔ ∀ n ∈ intsEntries entries, n.natAbs < digitBound
  | [] => ⟨fun _ => nofun, fun _ => rfl⟩
  | (k, v) :: rest => by
    rw [areWritableEntries, intsEntries, Bool.and_eq_true, Bool.and_eq_true, isWritable_iff k,
      isWritable_iff v, areWritableEntries_iff rest, List.forall_mem_append,
      List.forall_mem_append]

end

/-! ### Knots -/

section Knots

variable {P : Int → Prop}

mutual

/-- What is cut has no other integers, -/
theorem forall_ints_cut (labels : List Nat) :
    ∀ v : Value, (∀ n ∈ v.ints, P n) → ∀ n ∈ (cut labels v).ints, P n
  | knot l v, h => by
    rw [cut]
    split
    · exact nofun
    · exact forall_ints_cut labels v h
  | list xs, h => forall_ints_cutAll labels xs h
  | pair a b, h => by
    obtain ⟨ha, hb⟩ := List.forall_mem_append.1 h
    exact List.forall_mem_append.2 ⟨forall_ints_cut labels a ha, forall_ints_cut labels b hb⟩
  | mapping entries, h => forall_ints_cutEntries labels entries h
  | null, h | bool _, h | int _, h | float _, h | text _, h | bytes _, h | date .., h
  | moment _, h | set _, h | loop .., h => h

theorem forall_ints_cutAll (labels : List Nat) :
    ∀ vs : List Value, (∀ n ∈ intsAll vs, P n) → ∀ n ∈ intsAll (cutAll labels vs), P n
  | [], h => h
  | v :: vs, h => by
    obtain ⟨hv, hvs⟩ := List.forall_mem_append.1 h
    exact List.forall_mem_append.2 ⟨forall_ints_cut labels v hv, forall_ints_cutAll labels vs hvs⟩

theorem forall_ints_cutEntries (labels : List Nat) :
    ∀ entries : List (Value × Value), (∀ n ∈ intsEntries entries, P n) →
      ∀ n ∈ intsEntries (cutEntries labels entries), P n
  | [], h => h
  | (k, v) :: rest, h => by
    obtain ⟨hentry, hrest⟩ := List.forall_mem_append.1 h
    obtain ⟨hk, hv⟩ := List.forall_mem_append.1 hentry
    exact List.forall_mem_append.2 ⟨List.forall_mem_append.2 ⟨hk, forall_ints_cut labels v hv⟩,
      forall_ints_cutEntries labels rest hrest⟩

end

variable (label : Nat) {whole : Value}

mutual

/-- and what has a knot tied anew in it those of the knot besides. -/
theorem forall_ints_tie (hwhole : ∀ n ∈ whole.ints, P n) (around : List Nat) :
    ∀ v : Value, (∀ n ∈ v.ints, P n) → ∀ n ∈ (tie label whole around v).ints, P n
  | loop l b, _ => by
    rw [tie]
    split
    · exact forall_ints_cut around whole hwhole
    · exact nofun
  | knot l v, h => forall_ints_tie hwhole (l :: around) v h
  | list xs, h => forall_ints_tieAll hwhole around xs h
  | pair a b, h => by
    obtain ⟨ha, hb⟩ := List.forall_mem_append.1 h
    exact List.forall_mem_append.2
      ⟨forall_ints_tie hwhole around a ha, forall_ints_tie hwhole around b hb⟩
  | mapping entries, h => forall_ints_tieEntries hwhole around entries h
  | null, h | bool _, h | int _, h | float _, h | text _, h | bytes _, h | date .., h
  | moment _, h | set _, h => h

theorem forall_ints_tieAll (hwhole : ∀ n ∈ whole.ints, P n) (around : List Nat) :
    ∀ vs : List Value, (∀ n ∈ intsAll vs, P n) → ∀ n ∈ intsAll (tieAll label whole around vs), P n
  | [], h => h
  | v :: vs, h => by
    obtain ⟨hv, hvs⟩ := List.forall_mem_append.1 h
    exact List.forall_mem_append.2
      ⟨forall_ints_tie hwhole around v hv, forall_ints_tieAll hwhole around vs hvs⟩

theorem forall_ints_tieEntries (hwhole : ∀ n ∈ whole.ints, P n) (around : List Nat) :
    ∀ entries : List (Value × Value), (∀ n ∈ intsEntries entries, P n) →
      ∀ n ∈ intsEntries (tieEntries label whole around entries), P n
  | [], h => h
  | (k, v) :: rest, h => by
    obtain ⟨hentry, hrest⟩ := List.forall_mem_append.1 h
    obtain ⟨hk, hv⟩ := List.forall_mem_append.1 hentry
    exact List.forall_mem_append.2
      ⟨List.forall_mem_append.2 ⟨hk, forall_ints_tie hwhole around v hv⟩,
        forall_ints_tieEntries hwhole around rest hrest⟩

end

/-- **The collection that a knot is has the integers of the knot.** -/
theorem forall_ints_untied {v : Value} (h : ∀ n ∈ v.ints, P n) : ∀ n ∈ v.untied.ints, P n := by
  cases v with
  | knot l v => exact forall_ints_tie l h [] v h
  | _ => exact h

/-- The integers in a mapping are those in its keys and values. -/
theorem forall_ints_of_mem {entries : List (Value × Value)} (h : ∀ n ∈ intsEntries entries, P n)
    {e : Value × Value} (he : e ∈ entries) : (∀ n ∈ e.1.ints, P n) ∧ ∀ n ∈ e.2.ints, P n := by
  induction entries with
  | nil => exact absurd he List.not_mem_nil
  | cons entry rest ih =>
    obtain ⟨hentry, hrest⟩ := List.forall_mem_append.1 h
    rcases List.mem_cons.1 he with rfl | he
    · exact List.forall_mem_append.1 hentry
    · exact ih hrest he

end Knots

/-! ### Settings -/

/-- **No integer in a value is too large** to have a number nearest to it. -/
def Fits (v : Value) : Prop := ∀ n ∈ v.ints, ∃ x : Float, Scalar.ofInt? n = some x

/-- What has no integer that is too large can be written, -/
theorem Fits.isWritable {v : Value} (h : v.Fits) : v.isWritable = true :=
  v.isWritable_iff.2 fun n hn => (h n hn).elim fun _ => natAbs_lt_of_ofInt?

/-- and so can all that it holds. -/
theorem Fits.of_mem_entries {v : Value} {entries : List (Value × Value)} (h : v.Fits)
    (hentries : v.entries? = some entries) {e : Value × Value} (he : e ∈ entries) :
    e.1.Fits ∧ e.2.Fits := by
  have huntied : v.untied = .mapping entries := by
    rw [entries?] at hentries
    split at hentries
    · next heq => rw [heq, Option.some.inj hentries]
    · cases hentries
  have hints := forall_ints_untied h
  rw [huntied] at hints
  exact forall_ints_of_mem hints he

end Value

end Linkage
