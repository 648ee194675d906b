import EchoBench.Json.Number
import EchoBench.Proofs.Decimal.Packing

/-!
# `EchoBench.Proofs.Decimal.Scaled`: decimals in the arithmetic of floats

A decimal is read by two operations on floats: its digits are made a float, and that is multiplied
or divided by a power of ten (`scaled?`). Each of them rounds, so in general the result is a float
near the decimal and not the nearest one. Two things hold nevertheless.

`scaled?_eq_some`: for digits that are exact as a float, and a power of ten that is exact as well,
only one operation rounds, and the result is the float that the decimal is nearest to. These are the
digits below two to the power of fifty-three (`unpack_ofWhole`) and the powers up to ten to the
power of twenty-two (`isWhole_powerOfTen`).

`isFinite_of_scaled?`: whatever the digits and the exponent are, the result is a finite float, if
there is one. A product is tested for being infinite, and the quotient by a power of ten above one
cannot overflow (`isFinite_div`).
-/

set_option autoImplicit false

namespace EchoBench.Proofs.Decimal

open Float.Model
open Float.Model.UnpackedFloat
open EchoBench.Json (ofWhole powerOfTen greatestPower scaleDown scaled?)

/-! ### Whole numbers -/

/-- Its bits moved up to the places of the format, a whole number has all of them. -/
theorem shifted_bounds {n : Nat} (hn : 0 < n) (hlt : n < 2 ^ 53) :
    2 ^ 52 ≤ n * 2 ^ (52 - n.log2) ∧ n * 2 ^ (52 - n.log2) < 2 ^ 53 := by
  have hlog : n.log2 < 53 := (Nat.log2_lt (Nat.pos_iff_ne_zero.mp hn)).mpr hlt
  constructor
  · calc 2 ^ 52 = 2 ^ n.log2 * 2 ^ (52 - n.log2) := by
          rw [← Nat.pow_add, Nat.add_sub_cancel' (by omega)]
      _ ≤ n * 2 ^ (52 - n.log2) :=
          Nat.mul_le_mul_right _ (Nat.log2_self_le (Nat.pos_iff_ne_zero.mp hn))
  · calc n * 2 ^ (52 - n.log2) < 2 ^ (n.log2 + 1) * 2 ^ (52 - n.log2) :=
          Nat.mul_lt_mul_of_pos_right Nat.lt_log2_self (Nat.two_pow_pos _)
      _ = 2 ^ 53 := by
          rw [← Nat.pow_add, show n.log2 + 1 + (52 - n.log2) = 53 by omega]

/-- The mantissa and the exponent of a whole number that has no more bits than the format. -/
theorem canonical_shifted {n : Nat} (hn : 0 < n) (hlt : n < 2 ^ 53) :
    Canonical (n * 2 ^ (52 - n.log2)) (n.log2 - 52) where
  pos := by positivity
  lt := (shifted_bounds hn hlt).2
  le := by omega
  full := .inl (shifted_bounds hn hlt).1

/-- The parts of a whole number that has no more bits than the format. -/
theorem ofNat_eq_finite {n : Nat} (hn : 0 < n) (hlt : n < 2 ^ 53) :
    UnpackedFloat.ofNat .binary64 n
      = .finite .positive (n * 2 ^ (52 - n.log2)) (n.log2 - 52) (canonical_shifted hn hlt).pos := by
  have hlog : n.log2 < 53 := (Nat.log2_lt (Nat.pos_iff_ne_zero.mp hn)).mpr hlt
  have hc := canonical_shifted hn hlt
  have hgt : compare (n : Int) 0 = .gt := Int.compare_eq_gt.mpr (by omega)
  have htarget : Format.binary64.targetExponent (totalExponent n 0) = n.log2 - 52 := by
    show max ((n.log2 : Int) + 1 + 0 - 53) (-1074) = n.log2 - 52
    omega
  -- The bits are moved up before the number is rounded, and then nothing is left to round.
  have hexponent : (0 : Int) - ((0 - ((n.log2 : Int) - 52)).toNat : Int) = n.log2 - 52 := by omega
  have hshift : n <<< ((0 : Int) - ((n.log2 : Int) - 52)).toNat = n * 2 ^ (52 - n.log2) := by
    rw [Nat.shiftLeft_eq]
    congr 2
    omega
  have hround : UnpackedFloat.ofNat .binary64 n = roundWithAccuracy .binary64 .positive
      (n * 2 ^ (52 - n.log2)) (n.log2 - 52) .exact := by
    simp only [UnpackedFloat.ofNat, UnpackedFloat.ofInt, UnpackedFloat.normalize, hgt,
      UnpackedFloat.round, Int.toNat_natCast, htarget, decreaseExponent, hexponent, hshift]
  rw [hround]
  have hself := names_self (n * 2 ^ (52 - n.log2)) ((n.log2 : Int) - 52)
  refine roundWithAccuracy_of_names .positive ?_ hc hself fun t _ hv => le_of_bits ?_ le_rfl hv
  · rw [mul_div_cancel_right₀ _ (by positivity)]
    exact represents_exact _
  · exact (shifted_bounds hn hlt).1

/-- A whole number that has no more bits than the format is a float. The step through sixty-four
bits takes nothing from it. -/
theorem unpack_ofWhole {n : Nat} (hn : 0 < n) (hlt : n < 2 ^ 53) :
    (ofWhole n).toModel.unpack
      = .finite .positive (n * 2 ^ (52 - n.log2)) (n.log2 - 52) (canonical_shifted hn hlt).pos := by
  have hlog : n.log2 < 53 := (Nat.log2_lt (Nat.pos_iff_ne_zero.mp hn)).mpr hlt
  have hcount : n.toUInt64.toNat = n := by
    rw [Nat.toUInt64, UInt64.toNat_ofNat']
    omega
  show UnpackedFloat.unpack .binary64 (UnpackedFloat.pack .binary64
    (UnpackedFloat.ofNat .binary64 n.toUInt64.toNat)) = _
  rw [hcount, ofNat_eq_finite hn hlt, unpack_pack .positive (canonical_shifted hn hlt) (by omega)]

/-- The number of a whole number that has been moved up to the places of the format. -/
theorem value_shifted {n : Nat} (hn : 0 < n) (hlt : n < 2 ^ 53) :
    ((n * 2 ^ (52 - n.log2) : Nat) : ℚ) * 2 ^ ((n.log2 : Int) - 52) = n := by
  have hlog : n.log2 < 53 := (Nat.log2_lt (Nat.pos_iff_ne_zero.mp hn)).mpr hlt
  have hback : (2 : ℚ) ^ (52 - n.log2) * 2 ^ ((n.log2 : Int) - 52) = 1 := by
    rw [← zpow_natCast, ← zpow_add₀ two_ne_zero, show ((52 - n.log2 : Nat) : Int)
      + ((n.log2 : Int) - 52) = 0 by omega, zpow_zero]
  push_cast
  rw [mul_assoc, hback, mul_one]

/-- The float of a whole number of sixty-four bits is finite, since all of them are far below the
greatest float. More digits than that are not taken. -/
theorem isFinite_ofWhole (n : Nat) : (ofWhole n).isFinite = true := by
  show (UnpackedFloat.unpack .binary64 (UnpackedFloat.pack .binary64
    (UnpackedFloat.ofNat .binary64 n.toUInt64.toNat))).isFinite = true
  have hlt : n.toUInt64.toNat < 2 ^ 64 := n.toUInt64.toNat_lt
  generalize n.toUInt64.toNat = n at hlt
  refine isFinite_of_inRange ?_
  rcases Nat.eq_zero_or_pos n with rfl | hn
  · trivial
  · have hgt : compare (n : Int) 0 = .gt := Int.compare_eq_gt.mpr (by omega)
    simp only [UnpackedFloat.ofNat, UnpackedFloat.ofInt, UnpackedFloat.normalize, hgt,
      UnpackedFloat.round, Int.toNat_natCast, decreaseExponent]
    obtain ⟨k, hk⟩ : ∃ k, (0 - Format.binary64.targetExponent (totalExponent n 0)).toNat = k :=
      ⟨_, rfl⟩
    rw [hk]
    -- Sixty-four bits and a shift: the exponent goes down as the mantissa goes up.
    have hless : n <<< k < 2 ^ (64 + k) := by
      rw [Nat.shiftLeft_eq, Nat.pow_add]
      exact Nat.mul_lt_mul_of_pos_right hlt (Nat.two_pow_pos k)
    have hlog := log2_succ_le hless
    refine inRange_roundWithAccuracy _ _ (by omega) ?_
    simp only [totalExponent]
    omega

/-! ### Powers of ten -/

/-- Whether a float is a whole number, by its unpacked form alone. It is a test and not a
proposition, so that the table of the powers of ten is gone through by evaluation. -/
def isWhole (x : Float) (n : Nat) : Bool :=
  match x.toModel.unpack with
  | .finite .positive m e _ => m * 2 ^ e.toNat == n * 2 ^ (-e).toNat
  | _ => false

/-- The parts of a float that is a whole number, with the number that they stand for. -/
theorem exists_unpack_of_isWhole {x : Float} {n : Nat} (h : isWhole x n = true) :
    ∃ m e, ∃ hm : 0 < m, x.toModel.unpack = .finite .positive m e hm ∧ (m : ℚ) * 2 ^ e = n := by
  unfold isWhole at h
  split at h
  · next m e hm hparts =>
    rw [beq_iff_eq] at h
    refine ⟨m, e, hm, hparts, ?_⟩
    have hvalue : (m : ℚ) * 2 ^ e.toNat = n * 2 ^ (-e).toNat := by exact_mod_cast h
    rw [zpow_eq_div two_ne_zero, mul_div_assoc', hvalue]
    field_simp
  · cases h

/-- The powers of ten up to this one are exact as floats, since five to that power has no more bits
than a mantissa. So scaling by one of them rounds once, and the result is the float nearest to the
decimal. -/
theorem isWhole_powerOfTen : ∀ k : Fin 23, isWhole (powerOfTen k) (10 ^ k.val) = true := by
  decide +kernel

/-- The parts of a power of ten that is exact as a float. -/
theorem exists_unpack_powerOfTen {k : Nat} (hk : k ≤ 22) :
    ∃ m e, ∃ hm : 0 < m, (powerOfTen k).toModel.unpack = .finite .positive m e hm ∧
      (m : ℚ) * 2 ^ e = 10 ^ k := by
  obtain ⟨m, e, hm, hparts, hvalue⟩ :=
    exists_unpack_of_isWhole (isWhole_powerOfTen ⟨k, Nat.lt_succ_of_le hk⟩)
  exact ⟨m, e, hm, hparts, by exact_mod_cast hvalue⟩

/-- Whether a float is finite and not below two. Dividing by such a float cannot lead out of the
finite ones, and all powers of ten but the first are of this kind. -/
def isTwoOrMore (x : Float) : Bool :=
  match x.toModel.unpack with
  | .finite .positive m e _ => 2 ≤ totalExponent m e
  | _ => false

/-- The powers of ten above one that are kept are two or more, so a division by one cannot overflow.
-/
theorem isTwoOrMore_powerOfTen : ∀ k : Fin greatestPower, isTwoOrMore (powerOfTen (k + 1)) = true := by
  decide +kernel

/-- A float that is two or more is finite, because the test looks at the exponent of a finite float
and fails for any other. -/
theorem isFinite_of_isTwoOrMore {x : Float} (h : isTwoOrMore x = true) : x.isFinite = true := by
  unfold isTwoOrMore at h
  split at h
  · next hparts =>
    show x.toModel.unpack.isFinite = true
    rw [hparts]
    rfl
  · cases h

/-! ### Products and quotients -/

section Decimals

variable {v : ℚ} {d m : Nat} {e exponent : Int}

/-- The product of two positive floats is the float that the product of their numbers is nearest
to. -/
theorem unpack_mul_of_names {x y : Float} {m₁ m₂ : Nat} {e₁ e₂ : Int} {h₁ : 0 < m₁} {h₂ : 0 < m₂}
    (hx : x.toModel.unpack = .finite .positive m₁ e₁ h₁)
    (hy : y.toModel.unpack = .finite .positive m₂ e₂ h₂) (hbits : 2 ^ 52 ≤ m₁ * m₂)
    (hv : v = m₁ * 2 ^ e₁ * (m₂ * 2 ^ e₂)) (hc : Canonical m e) (he : e ≤ 971) (h : Names v m e) :
    (x * y).toModel.unpack = .finite .positive m e hc.pos := by
  show UnpackedFloat.unpack .binary64 (UnpackedFloat.pack .binary64
    (UnpackedFloat.mul .binary64 x.toModel.unpack y.toModel.unpack)) = _
  rw [hx, hy, mul_eq_of_names .positive .positive h₁ h₂ hbits hv hc h]
  exact unpack_pack .positive hc he

/-- The quotient of two positive floats is the float that the quotient of their numbers is nearest
to. -/
theorem unpack_div_of_names {x y : Float} {m₁ m₂ : Nat} {e₁ e₂ : Int} {h₁ : 0 < m₁} {h₂ : 0 < m₂}
    (hx : x.toModel.unpack = .finite .positive m₁ e₁ h₁)
    (hy : y.toModel.unpack = .finite .positive m₂ e₂ h₂) (hv : v = m₁ * 2 ^ e₁ / (m₂ * 2 ^ e₂))
    (hc : Canonical m e) (he : e ≤ 971) (h : Names v m e) :
    (x / y).toModel.unpack = .finite .positive m e hc.pos := by
  show UnpackedFloat.unpack .binary64 (UnpackedFloat.pack .binary64
    (UnpackedFloat.div .binary64 x.toModel.unpack y.toModel.unpack)) = _
  rw [hx, hy, div_eq_of_names .positive .positive h₁ h₂ hv hc h]
  exact unpack_pack .positive hc he

/-- A decimal with few digits and a small exponent is read as the float that it is nearest to: its
digits and the power of ten are exact, so that one operation rounds the decimal itself. -/
theorem scaled?_eq_some (hd : 0 < d) (hlt : d < 2 ^ 53) (hexponent : exponent.natAbs ≤ 22)
    (hc : Canonical m e) (he : e ≤ 971) (h : Names (d * 10 ^ exponent) m e) :
    ∃ x, scaled? d exponent = some x ∧ x.toModel.unpack = .finite .positive m e hc.pos := by
  obtain ⟨mp, ep, hp, hpower, hten⟩ := exists_unpack_powerOfTen hexponent
  have hdigits := unpack_ofWhole hd hlt
  have hvalue := value_shifted hd hlt
  cases exponent with
  | ofNat k =>
    have hpower : (powerOfTen k).toModel.unpack = .finite .positive mp ep hp := hpower
    have hv : (d : ℚ) * 10 ^ (Int.ofNat k) = ((d * 2 ^ (52 - d.log2) : Nat) : ℚ)
        * 2 ^ ((d.log2 : Int) - 52) * (mp * 2 ^ ep) := by
      rw [hvalue, hten]
      rfl
    have hbits : 2 ^ 52 ≤ d * 2 ^ (52 - d.log2) * mp :=
      (shifted_bounds hd hlt).1.trans (Nat.le_mul_of_pos_right _ hp)
    have hparts := unpack_mul_of_names hdigits hpower hbits hv hc he h
    have hinf : (ofWhole d * powerOfTen k).isInf = false := by
      show (ofWhole d * powerOfTen k).toModel.unpack.isInf = false
      rw [hparts]
      rfl
    have hk : k ≤ greatestPower := Nat.le_trans hexponent (by decide)
    refine ⟨_, ?_, hparts⟩
    simp only [scaled?, if_pos hk, hinf, Bool.false_eq_true, if_false]
  | negSucc k =>
    have hpower : (powerOfTen (k + 1)).toModel.unpack = .finite .positive mp ep hp := hpower
    have hk : k + 1 ≤ 22 := hexponent
    have hv : (d : ℚ) * 10 ^ (Int.negSucc k) = ((d * 2 ^ (52 - d.log2) : Nat) : ℚ)
        * 2 ^ ((d.log2 : Int) - 52) / (mp * 2 ^ ep) := by
      have hten : (mp : ℚ) * 2 ^ ep = 10 ^ (k + 1) := hten
      rw [hvalue, hten, zpow_negSucc]
      rfl
    -- The exponent is within the table, so the division is made in one part.
    have hone : k / greatestPower = 0 := Nat.div_eq_of_lt (Nat.lt_of_lt_of_le hk (by decide))
    refine ⟨_, ?_, unpack_div_of_names hdigits hpower hv hc he h⟩
    simp only [scaled?, hone, scaleDown, Nat.mul_zero, Nat.sub_zero]

end Decimals

/-! ### Finite results -/

/-- A finite float stays finite when it is divided by a float that is two or more. -/
theorem isFinite_div {x y : Float} (hx : x.isFinite = true) (hy : isTwoOrMore y = true) :
    (x / y).isFinite = true := by
  show (UnpackedFloat.unpack .binary64 (UnpackedFloat.pack .binary64
    (UnpackedFloat.div .binary64 x.toModel.unpack y.toModel.unpack))).isFinite = true
  refine isFinite_of_inRange ?_
  unfold isTwoOrMore at hy
  split at hy
  · next m₂ e₂ h₂ hparts =>
    rw [hparts]
    have hx : x.toModel.unpack.isFinite = true := hx
    cases hdividend : x.toModel.unpack with
    | notANumber | infinity s => rw [hdividend] at hx; cases hx
    | zero s => trivial
    | finite s m e h =>
      obtain ⟨hm, he⟩ := bounds_of_unpack hdividend
      have hlog := log2_succ_le hm
      refine inRange_div _ _ h h₂ ?_ (of_decide_eq_true hy)
      rw [totalExponent]
      omega
  · cases hy

/-- Dividing by the greatest power of ten, any number of times, keeps a float finite. A decimal with
a very negative exponent is so read as a small number or zero, and never as a fault. -/
theorem isFinite_scaleDown (n : Nat) {x : Float} (h : x.isFinite = true) :
    (scaleDown n x).isFinite = true := by
  induction n generalizing x with
  | zero => exact h
  | succ n ih =>
    rw [scaleDown]
    split
    · exact h
    · exact ih (isFinite_div h (isTwoOrMore_powerOfTen ⟨307, by decide⟩))

/-- A decimal is read as a finite float, if it is read as one at all. Feeds the normal form of
records: no reader makes a time that cannot be written as a number. -/
theorem isFinite_of_scaled? {digits : Nat} {exponent : Int} {x : Float}
    (h : scaled? digits exponent = some x) : x.isFinite = true := by
  cases exponent with
  | ofNat k =>
    -- Scaling up may overflow, and the reader looks for that.
    simp only [scaled?] at h
    split at h
    · next hk =>
      split at h
      · cases h
      · next hinf =>
        cases h
        have hpower : (powerOfTen k).isFinite = true := by
          cases k with
          | zero => decide +kernel
          | succ k => exact isFinite_of_isTwoOrMore (isTwoOrMore_powerOfTen ⟨k, hk⟩)
        exact isFinite_of_not_isInf (isFinite_mul (isFinite_ofWhole digits) hpower)
          (Bool.eq_false_iff.mpr hinf)
    · split at h
      · cases h
        exact isFinite_ofWhole digits
      · cases h
  | negSucc k =>
    -- Scaling down does not look, because a quotient by two or more cannot overflow.
    cases h
    have hlast : k + 1 - greatestPower * (k / greatestPower) = k % greatestPower + 1 := by
      have := Nat.div_add_mod k greatestPower
      omega
    rw [hlast]
    have hless : k % greatestPower < greatestPower := Nat.mod_lt k (by decide)
    exact isFinite_div (isFinite_scaleDown _ (isFinite_ofWhole digits))
      (isTwoOrMore_powerOfTen ⟨k % greatestPower, hless⟩)

end EchoBench.Proofs.Decimal
