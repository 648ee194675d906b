import Mathlib

/-!
# `EchoBench.Proofs.SignedZero`: sums of floats and the two zeros

A float has two zeros, and they differ as values. The positive one changes nothing when it is added,
unless the other side is the negative one (`add_zero_of_ne`, `zero_add_of_ne`). The negative one
never changes anything (`add_negZero`), and a sum is the negative zero only where both sides are
(`eq_negZero_of_add`).

Core adds two floats by their parts: it aligns the mantissas, adds them as whole numbers, and rounds
what comes of it to the format. A zero on one side leaves the parts of the other side as they are.
For `eq_negZero_of_add` the two sides are finite, and the question is whether a sum that is not zero
may be rounded to a zero. It may not, since no finite float has an exponent below that of the
format: so the mantissa of the sum is cut only where it has more bits than the format
(`round_eq_finite`).

For the same reason a count that is not zero is not zero as a float (`ofNat_beq_zero`), however many
bits it has: a mean over a count never divides by zero.
-/

set_option autoImplicit false

namespace EchoBench.Proofs

open Float.Model
open Float.Model.UnpackedFloat

/-! ### Floats and their parts -/

/-- Floats with the same parts are the same, so an equation of floats is proved by taking both sides
apart. -/
theorem eq_of_unpack_eq {x y : Float} (h : x.toModel.unpack = y.toModel.unpack) : x = y :=
  Float.toBits_inj.mp <| UInt64.toBitVec_inj.mp <|
    (unpack_inj_of_valid x.toModel.valid y.toModel.valid).mp h

/-- The literal zero is the zero with a plus sign, from which every sum of latencies starts. -/
theorem unpack_zero : (0.0 : Float).toModel.unpack = .zero .positive := by rfl

/-- The literal with a minus sign is the other zero. It compares equal to the first and is not the
same float. -/
theorem unpack_negZero : (-0.0 : Float).toModel.unpack = .zero .negative := by rfl

/-- The floats that are equal to zero are the two zeros. Equality of floats does not tell them
apart, and that is why sums need care here. -/
theorem beq_zero_iff {x : Float} : (x == 0.0) = true ↔ ∃ s, x.toModel.unpack = .zero s := by
  change x.toModel.unpack.beq (.zero .positive) = true ↔ _
  cases x.toModel.unpack with
  | zero s => cases s <;> simp [UnpackedFloat.beq, UnpackedFloat.compare]
  | notANumber => simp [UnpackedFloat.beq, UnpackedFloat.compare]
  | infinity s | finite s m e hm => cases s <;> simp [UnpackedFloat.beq, UnpackedFloat.compare]

/-- Only the negative zero has its parts. To show that a sum is not minus zero it is enough to look
at the parts of the sum. -/
theorem unpack_ne_of_ne_negZero {x : Float} (h : x ≠ -0.0) :
    x.toModel.unpack ≠ .zero .negative :=
  fun hx => h (eq_of_unpack_eq (hx.trans unpack_negZero.symm))

/-- Where the parts of a float are the sum of the parts of two others, it is their sum. -/
theorem add_eq_of_unpack {x y z : Float}
    (h : UnpackedFloat.add .binary64 x.toModel.unpack y.toModel.unpack = z.toModel.unpack) :
    x + y = z := by
  apply Float.toBits_inj.mp
  apply UInt64.toBitVec_inj.mp
  change UnpackedFloat.pack .binary64 (UnpackedFloat.add .binary64 _ _) = _
  rw [h]
  exact pack_unpack_of_valid z.toModel.valid

/-! ### Adding a zero -/

/-- Adding the negative zero changes nothing, not even the sign of a zero. The positive zero would:
it turns the negative one into itself. -/
theorem add_negZero (x : Float) : x + -0.0 = x := by
  apply add_eq_of_unpack
  rw [unpack_negZero]
  cases x.toModel.unpack with
  | zero s => cases s <;> rfl
  | infinity s | notANumber | finite s m e hm => rfl

/-- Adding the positive zero changes nothing but the negative zero, which it turns into the positive
one. -/
theorem add_zero_of_ne {x : Float} (h : x ≠ -0.0) : x + 0.0 = x := by
  have hparts := unpack_ne_of_ne_negZero h
  apply add_eq_of_unpack
  rw [unpack_zero]
  cases hx : x.toModel.unpack with
  | zero s =>
    cases s with
    | positive => rfl
    | negative => exact absurd hx hparts
  | infinity s | notANumber | finite s m e hm => rfl

/-- Adding to the positive zero gives back anything but the negative zero, in the same way from the
left. -/
theorem zero_add_of_ne {x : Float} (h : x ≠ -0.0) : 0.0 + x = x := by
  have hparts := unpack_ne_of_ne_negZero h
  apply add_eq_of_unpack
  rw [unpack_zero]
  cases hx : x.toModel.unpack with
  | zero s =>
    cases s with
    | positive => rfl
    | negative => exact absurd hx hparts
  | infinity s | notANumber | finite s m e hm => rfl

/-- It makes no difference to a sum whether its right side was added to the positive zero first. -/
theorem add_zero_add {x : Float} (h : x ≠ -0.0) (y : Float) : x + (0.0 + y) = x + y := by
  by_cases hy : y = -0.0
  · -- The positive zero comes in the place of the negative one, and neither changes `x`.
    rw [hy, add_negZero, add_negZero, add_zero_of_ne h]
  · rw [zero_add_of_ne hy]

/-! ### Packing finite floats -/

/-- The parts of a finite float are within the bounds of the format. -/
def Fits : UnpackedFloat → Prop
  | .finite _ m e _ => m < 2 ^ 53 ∧ -1074 ≤ e
  | .infinity _ | .notANumber | .zero _ => True

/-- Every float in memory fits: its mantissa has at most the bits that the format gives it. -/
theorem fits_unpack (b : BitVec Format.binary64.numBits) :
    Fits (UnpackedFloat.unpack .binary64 b) := by
  have hbias : ((Format.binary64.exponentBias : Nat) : Int) = 1023 := rfl
  unfold UnpackedFloat.unpack
  simp only [hbias]
  split
  · split <;> trivial
  · split
    · split
      · trivial
      · exact ⟨(unpackMantissa b).isLt.trans (by decide), by omega⟩
    · rename_i hzero
      have hexponent : (unpackExponent b).toNat ≠ 0 := fun h0 => hzero (BitVec.eq_of_toNat_eq h0)
      exact ⟨BitVec.isLt _, by omega⟩

/-- A finite float within the bounds has a bit below its sign when it is packed. -/
theorem pack_finite_ne_packedZero {s t : Sign} {m : Nat} {e : Int} (hm : 0 < m)
    (hlt : m < 2 ^ 53) (he : -1074 ≤ e) :
    UnpackedFloat.pack .binary64 (.finite s m e hm) ≠ packedZero .binary64 t := by
  intro h
  have hbias : ((Format.binary64.exponentBias : Nat) : Int) = 1023 := rfl
  have hexponent : (unpackExponent (UnpackedFloat.pack .binary64 (.finite s m e hm))).toNat = 0 := by
    rw [h, packedZero, unpackExponent_packComponents]
    rfl
  have hmantissa : (unpackMantissa (UnpackedFloat.pack .binary64 (.finite s m e hm))).toNat = 0 := by
    rw [h, packedZero, unpackMantissa_packComponents]
    rfl
  -- Packed as zero, both fields would be zero; which of them is not depends on the length of the
  -- mantissa.
  simp only [UnpackedFloat.pack, hbias] at hexponent hmantissa
  split at hexponent
  · simp [packedInfinity] at hexponent
  · rename_i hsmall
    rw [if_neg hsmall] at hmantissa
    split at hexponent
    · -- A mantissa with all its bits comes with an exponent.
      rw [unpackExponent_packComponents, BitVec.toNat_ofNat] at hexponent
      omega
    · -- A shorter one is packed as it is.
      rename_i hshort
      rw [if_neg hshort, unpackMantissa_packComponents, BitVec.toNat_ofNat] at hmantissa
      have hlog : m.log2 < 53 := (Nat.log2_lt (by omega)).mpr hlt
      have hlog' : m.log2 ≠ 52 := fun h => hshort (by rw [h]; rfl)
      have hlt' : m < 2 ^ 52 := (Nat.log2_lt (by omega)).mp (by omega)
      omega

/-- Only a zero is packed as a zero. A finite float that is too small would be, but its parts would
not fit the format. -/
theorem eq_zero_of_pack {u : UnpackedFloat} {t : Sign} (hu : Fits u)
    (h : UnpackedFloat.pack .binary64 u = packedZero .binary64 t) : u = .zero t := by
  have hunpacked := congrArg (UnpackedFloat.unpack .binary64) h
  cases u with
  | notANumber => simp [UnpackedFloat.pack] at hunpacked
  | zero s => simpa [UnpackedFloat.pack] using hunpacked
  | infinity s => cases s <;> cases t <;> cases h
  | finite s m e hm => exact absurd h (pack_finite_ne_packedZero hm hu.1 hu.2)

/-! ### Rounding -/

/-- Shifting an extended mantissa divides it; the bits that go are remembered as its accuracy only.
-/
theorem mantissa_shiftRight (em : ExtendedMantissa) (n : Nat) :
    (em >>> n).mantissa = em.mantissa / 2 ^ n := by
  change (n.repeat ExtendedMantissa.shiftRightOne em).mantissa = _
  induction n with
  | zero => simp [Nat.repeat]
  | succ n ih =>
    rw [Nat.repeat, ExtendedMantissa.shiftRightOne, ih, Nat.div_div_eq_div_mul, Nat.pow_succ]

/-- Rounding to nearest makes a mantissa larger by one or leaves it, and never smaller, so one that
is not zero stays so. -/
theorem le_roundedMantissa (em : ExtendedMantissa) : em.mantissa ≤ em.roundedMantissa := by
  unfold ExtendedMantissa.roundedMantissa Accuracy.roundToNearestEven
  split <;> omega

/-- A mantissa whose first bit is within the bounds keeps that bit when it is shifted to its place
in the format, and then has no more bits than the format. -/
theorem shiftToTargetExponent_bounds {m : Nat} {e : Int} (hm : 0 < m) (he : -1074 ≤ e + m.log2) :
    0 < (shiftToTargetExponent .binary64 m e .exact).1.mantissa ∧
      (shiftToTargetExponent .binary64 m e .exact).1.mantissa < 2 ^ 53 ∧
      -1074 ≤ (shiftToTargetExponent .binary64 m e .exact).2 := by
  have htarget : Format.binary64.targetExponent (totalExponent m e)
      = max (m.log2 + 1 + e - 53) (-1074) := rfl
  have hlow : 2 ^ m.log2 ≤ m := Nat.log2_self_le (by omega)
  have hhigh : m < 2 ^ (m.log2 + 1) := Nat.lt_log2_self
  simp only [shiftToTargetExponent, shiftToExponent, mantissa_shiftRight, htarget,
    ExtendedMantissa.ofMantissaAndAccuracy]
  generalize hk : (max (m.log2 + 1 + e - 53) (-1074) - e).toNat = k
  refine ⟨?_, ?_, by omega⟩
  · apply Nat.div_pos _ (Nat.two_pow_pos k)
    exact (Nat.pow_le_pow_right (by decide) (show k ≤ m.log2 by omega)).trans hlow
  · rw [Nat.div_lt_iff_lt_mul (Nat.two_pow_pos k)]
    calc m < 2 ^ (m.log2 + 1) := hhigh
      _ ≤ 2 ^ (53 + k) := Nat.pow_le_pow_right (by decide) (by omega)
      _ = 2 ^ 53 * 2 ^ k := Nat.pow_add 2 53 k

/-- Rounding makes no zero of a mantissa whose first bit is within the bounds. -/
theorem roundWithAccuracy_eq_finite (s : Sign) {m : Nat} {e : Int} (hm : 0 < m)
    (he : -1074 ≤ e + m.log2) :
    ∃ m' e', ∃ hm' : 0 < m', roundWithAccuracy .binary64 s m e .exact = .finite s m' e' hm' ∧
      Fits (.finite s m' e' hm') := by
  obtain ⟨hm₁, -, he₁⟩ := shiftToTargetExponent_bounds hm he
  -- The mantissa may have got one bit more when it was rounded, so it is shifted again.
  obtain ⟨hm₂, hlt₂, he₂⟩ :=
    shiftToTargetExponent_bounds (hm₁.trans_le (le_roundedMantissa _))
      (le_add_of_le_of_nonneg he₁ (Int.natCast_nonneg _))
  exact ⟨_, _, hm₂, dif_neg (Nat.pos_iff_ne_zero.mp hm₂), hlt₂, he₂⟩

/-- Rounding makes no zero of a mantissa whose last bit is within the bounds. -/
theorem round_eq_finite (s : Sign) {m : Nat} {e : Int} (hm : 0 < m) (he : -1074 ≤ e) :
    ∃ m' e', ∃ hm' : 0 < m', UnpackedFloat.round .binary64 s m e = .finite s m' e' hm' ∧
      Fits (.finite s m' e' hm') := by
  have htarget : -1074 ≤ Format.binary64.targetExponent (totalExponent m e) :=
    Int.le_max_right _ _
  have hshifted : 0 < (decreaseExponent m e
      (Format.binary64.targetExponent (totalExponent m e))).1 := by
    rw [decreaseExponent, Nat.shiftLeft_eq]
    exact Nat.mul_pos hm (Nat.two_pow_pos _)
  exact roundWithAccuracy_eq_finite s hshifted
    (le_add_of_le_of_nonneg (show -1074 ≤ e - _ by omega) (Int.natCast_nonneg _))

/-- The sum of two mantissas is rounded to a float within the bounds, and not to the negative zero.
-/
theorem fits_normalize (m : Int) {e : Int} (he : -1074 ≤ e) :
    Fits (UnpackedFloat.normalize .binary64 m e .positive) ∧
      UnpackedFloat.normalize .binary64 m e .positive ≠ .zero .negative := by
  unfold UnpackedFloat.normalize
  split
  · rename_i hlt
    have hm := Int.compare_eq_lt.mp hlt
    have hpos : 0 < (-m).toNat := by omega
    obtain ⟨m', e', hm', hround, hfits⟩ := round_eq_finite .negative hpos he
    rw [hround]
    exact ⟨hfits, nofun⟩
  · exact ⟨trivial, nofun⟩
  · rename_i hgt
    have hm := Int.compare_eq_gt.mp hgt
    have hpos : 0 < m.toNat := by omega
    obtain ⟨m', e', hm', hround, hfits⟩ := round_eq_finite .positive hpos he
    rw [hround]
    exact ⟨hfits, nofun⟩

/-! ### Sums that are the negative zero -/

/-- A sum fits the format, and it is minus zero only if both its terms are. The two are proved
together, since both go through the same cases of the addition. -/
theorem fits_add {u v : UnpackedFloat} (hu : Fits u) (hv : Fits v) :
    Fits (UnpackedFloat.add .binary64 u v) ∧
      (UnpackedFloat.add .binary64 u v = .zero .negative →
        u = .zero .negative ∧ v = .zero .negative) := by
  cases u with
  | notANumber => exact ⟨trivial, nofun⟩
  | infinity s =>
    cases v with
    | infinity t =>
      simp only [UnpackedFloat.add]
      split <;> exact ⟨trivial, nofun⟩
    | notANumber | zero t | finite t n f hn => exact ⟨trivial, nofun⟩
  | zero s =>
    cases v with
    | zero t => cases s <;> cases t <;> simp [UnpackedFloat.add, Fits]
    | notANumber | infinity t | finite t n f hn => exact ⟨hv, nofun⟩
  | finite s m e hm =>
    cases v with
    | finite t n f hn =>
      -- The mantissas are aligned at the lower exponent, which is within the bounds as well.
      have hmin : -1074 ≤ min e f := Int.le_min.mpr ⟨hu.2, hv.2⟩
      obtain ⟨hfits, hne⟩ := fits_normalize
        (s.apply (decreaseExponent m e (min e f)).1 + t.apply (decreaseExponent n f (min e f)).1)
        hmin
      exact ⟨hfits, fun h => absurd h hne⟩
    | notANumber | infinity t => exact ⟨trivial, nofun⟩
    | zero t => exact ⟨hu, nofun⟩

/-- A sum is the negative zero only where both sides are. So a sum that started from the positive
zero never becomes the negative one, and merging is safe. -/
theorem eq_negZero_of_add {x y : Float} (h : x + y = -0.0) : x = -0.0 ∧ y = -0.0 := by
  have hpacked : UnpackedFloat.pack .binary64
      (UnpackedFloat.add .binary64 x.toModel.unpack y.toModel.unpack)
        = packedZero .binary64 .negative :=
    congrArg (fun z : Float => z.toBits.toBitVec) h
  obtain ⟨hfits, hzeros⟩ := fits_add (fits_unpack x.toBits.toBitVec) (fits_unpack y.toBits.toBitVec)
  obtain ⟨hx, hy⟩ := hzeros (eq_zero_of_pack hfits hpacked)
  exact ⟨eq_of_unpack_eq hx, eq_of_unpack_eq hy⟩

/-! ### Counts as floats -/

/-- What is packed as a zero and is within the bounds, is one. -/
theorem eq_zero_of_unpack_pack {u : UnpackedFloat} {t : Sign} (hu : Fits u)
    (h : UnpackedFloat.unpack .binary64 (UnpackedFloat.pack .binary64 u) = .zero t) :
    u = .zero t := by
  apply eq_zero_of_pack hu
  rw [← pack_unpack_of_valid (valid_pack (f := u)), h, UnpackedFloat.pack]

/-- A product with one is zero only where the other side is; a count is converted to a float by such
a product. -/
theorem eq_zero_of_mul_one {x : Float} {t : Sign} (h : (x * 1.0).toModel.unpack = .zero t) :
    ∃ s, x.toModel.unpack = .zero s := by
  have hfits : Fits x.toModel.unpack := fits_unpack x.toBits.toBitVec
  have hproduct : UnpackedFloat.unpack .binary64 (UnpackedFloat.pack .binary64
      (UnpackedFloat.mul .binary64 x.toModel.unpack (1.0 : Float).toModel.unpack)) = .zero t := h
  have hone : (1.0 : Float).toModel.unpack
      = .finite .positive (2 ^ 52) (-52) (Nat.two_pow_pos 52) := by rfl
  rw [hone] at hproduct
  cases hx : x.toModel.unpack with
  | zero s => exact ⟨s, rfl⟩
  | notANumber =>
    rw [hx] at hproduct
    exact absurd (eq_zero_of_unpack_pack (u := .notANumber) trivial hproduct) nofun
  | infinity s =>
    rw [hx] at hproduct
    exact absurd (eq_zero_of_unpack_pack (u := .infinity _) trivial hproduct) nofun
  | finite s m e hm =>
    rw [hx] at hproduct hfits
    -- The product has the bits of `m` and zeros behind them.
    have hbound : -1074 ≤ e + -52 + ((m * 2 ^ 52).log2 : Int) := by
      have hlog : 52 ≤ (m * 2 ^ 52).log2 :=
        (Nat.le_log2 (by positivity)).mpr (Nat.le_mul_of_pos_left _ hm)
      have he := hfits.2
      omega
    obtain ⟨m', e', hm', hround, hfits'⟩ :=
      roundWithAccuracy_eq_finite (s * .positive) (Nat.mul_pos hm (Nat.two_pow_pos 52)) hbound
    have hmul : UnpackedFloat.mul .binary64 (.finite s m e hm)
        (.finite .positive (2 ^ 52) (-52) (Nat.two_pow_pos 52)) = .finite _ m' e' hm' := hround
    rw [hmul] at hproduct
    exact absurd (eq_zero_of_unpack_pack hfits' hproduct) nofun

/-- A whole number is not zero in the format if it is not. -/
theorem ofNat_ne_zero {n : Nat} (h : 0 < n) (t : Sign) :
    UnpackedFloat.ofNat .binary64 n ≠ .zero t := by
  obtain ⟨m', e', hm', hround, -⟩ := round_eq_finite .positive h (show -1074 ≤ (0 : Int) by decide)
  have hgt : compare (n : Int) 0 = .gt := Int.compare_eq_gt.mpr (by omega)
  have hnormal : UnpackedFloat.ofNat .binary64 n = .finite .positive m' e' hm' := by
    simp only [UnpackedFloat.ofNat, UnpackedFloat.ofInt, UnpackedFloat.normalize, hgt]
    exact hround
  rw [hnormal]
  exact nofun

/-- A whole number that is scaled by nothing is not zero if it was not. -/
theorem ofScientific_ne_zero {n : Nat} (h : 0 < n) (t : Sign) :
    UnpackedFloat.unpack .binary64 (UnpackedFloat.pack .binary64
      (UnpackedFloat.ofScientific .binary64 n 0)) ≠ .zero t := by
  intro hzero
  have hlow : ¬ (0 : Int) < -((2 ^ 11 : Int) + n.log2) := by omega
  -- The bits of `n` come in front of as many zeros as the format has bits.
  have hpos : 0 < n <<< 53 * 10 ^ (0 : Int).toNat := by
    rw [Nat.shiftLeft_eq]
    positivity
  have hbound : -1074 ≤ (-53 + 0 : Int) + (n <<< 53 * 10 ^ (0 : Int).toNat).log2 := by omega
  obtain ⟨m', e', hm', hround, hfits⟩ :=
    roundWithAccuracy_eq_finite (.positive * .positive) hpos hbound
  have hvalue : UnpackedFloat.ofScientific .binary64 n 0
      = .finite (.positive * .positive) m' e' hm' := by
    rw [UnpackedFloat.ofScientific, dif_neg (Nat.pos_iff_ne_zero.mp h), if_neg (by decide),
      if_neg hlow, if_pos (Int.le_refl 0), ← hround]
    rfl
  rw [hvalue] at hzero
  exact absurd (eq_zero_of_unpack_pack hfits hzero) nofun

/-- A count that is not zero is not zero as a float, however great it is. The means of a summary
divide by such a count, and only where it is not zero. -/
theorem ofNat_beq_zero {n : Nat} (h : 0 < n) : (Float.ofNat n == 0.0) = false := by
  have hne : ∀ t, (Float.ofNat n).toModel.unpack ≠ .zero t := by
    intro t hzero
    change (Float.ofScientific n false 0).toModel.unpack = _ at hzero
    unfold Float.ofScientific at hzero
    split at hzero
    · next hshort =>
      -- A short count is taken as it is, and multiplied with one.
      obtain ⟨s, hs⟩ := eq_zero_of_mul_one hzero
      have hcount : n.toUInt64.toNat = n := by
        rw [Nat.toUInt64, UInt64.toNat_ofNat']
        omega
      change UnpackedFloat.unpack .binary64 (UnpackedFloat.pack .binary64
        (UnpackedFloat.ofNat .binary64 n.toUInt64.toNat)) = _ at hs
      rw [hcount] at hs
      exact ofNat_ne_zero h s (eq_zero_of_unpack_pack (fits_normalize n (by decide)).1 hs)
    · exact ofScientific_ne_zero h t hzero
  apply Bool.eq_false_iff.mpr
  intro heq
  obtain ⟨t, ht⟩ := beq_zero_iff.mp heq
  exact hne t ht

end EchoBench.Proofs
