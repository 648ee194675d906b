import EchoBench.Proofs.SignedZero

/-!
# `EchoBench.Proofs.Decimal.Rounding`: the float that is nearest to a number

Core rounds in two steps. A mantissa is cut to the bits of the format, and two bits are kept of what
is cut off: whether it begins with a one, and whether there is a one behind that. From these bits
the mantissa is rounded, to even where they say that it is halfway; and since it may have got a bit
too many by that, it is cut once more.

Here this is said of rational numbers. `Represents` is what a mantissa and its two bits know of a
number, and it is kept when bits are cut off (`Represents.shiftRight`). `Names v m e` is the rule of
the format: the float `m * 2 ^ e` is nearest to `v`, or halfway and even. Below a power of two the
floats are closer, so the rule has a case of its own there, and so has the proof: such a number is
rounded at the exponent of the floats below and gets the bit too many (`Names.cases`).

`roundWithAccuracy_of_names` says that a number is rounded to the float that it names.
`mul_eq_of_names` and `div_eq_of_names` say the same of the products and the quotients of floats:
these are rounded once, so the exact product or quotient decides.
-/

set_option autoImplicit false

namespace EchoBench.Proofs.Decimal

open Float.Model
open Float.Model.UnpackedFloat

/-! ### Mantissas with two more bits -/

/-- What a mantissa with its two bits says of a number: which whole number is below it, and where it
is between that one and the next. -/
def Represents (em : ExtendedMantissa) (w : ℚ) : Prop :=
  match em.roundBit, em.stickyBit with
  | false, false => w = em.mantissa
  | false, true => em.mantissa < w ∧ w < em.mantissa + 1 / 2
  | true, false => w = em.mantissa + 1 / 2
  | true, true => em.mantissa + 1 / 2 < w ∧ w < em.mantissa + 1

/-- A number is nearest to a whole number, or halfway between that one and another if it is even. -/
def RoundsTo (w : ℚ) (m : Nat) : Prop :=
  (m - 1 / 2 < w ∧ w < m + 1 / 2) ∨ (m % 2 = 0 ∧ m - 1 / 2 ≤ w ∧ w ≤ m + 1 / 2)

section Mantissas

variable {em : ExtendedMantissa} {w : ℚ}

/-- The mantissa is what is left of the number when its fraction is cut off. This holds whatever the
accuracy says of that fraction, and is all that the bounds on rounded numbers use. -/
theorem Represents.bounds (h : Represents em w) : em.mantissa ≤ w ∧ w < em.mantissa + 1 := by
  obtain ⟨m, roundBit, stickyBit⟩ := em
  cases roundBit <;> cases stickyBit <;> simp only [Represents] at h ⊢ <;>
    constructor <;> linarith

/-- A whole number stands for itself when nothing has been cut off yet; the runs of shifts start
from here. -/
theorem represents_exact (m : Nat) : Represents (.ofMantissaAndAccuracy m .exact) m := rfl

/-- A mantissa that loses its last bit represents half the number: what the bit was worth goes into
the record of how exact the mantissa is. All longer shifts are this one again and again. -/
theorem Represents.shiftRightOne (h : Represents em w) : Represents em.shiftRightOne (w / 2) := by
  obtain ⟨m, roundBit, stickyBit⟩ := em
  have hm : ((m / 2 : Nat) : ℚ) * 2 + ((m % 2 : Nat) : ℚ) = m := by
    exact_mod_cast Nat.div_add_mod' m 2
  -- The bit that is lost says on which side of the middle the half is.
  obtain heven | hodd : m % 2 = 0 ∨ m % 2 = 1 := by omega
  · have hbit : (m % 2 != 0) = false := by simp [heven]
    rw [heven, Nat.cast_zero] at hm
    cases roundBit <;> cases stickyBit <;>
      simp only [Represents, ExtendedMantissa.shiftRightOne, hbit, Bool.or_false, Bool.or_true]
        at h ⊢
    · linarith
    all_goals constructor <;> linarith
  · have hbit : (m % 2 != 0) = true := by simp [hodd]
    rw [hodd, Nat.cast_one] at hm
    cases roundBit <;> cases stickyBit <;>
      simp only [Represents, ExtendedMantissa.shiftRightOne, hbit, Bool.or_false, Bool.or_true]
        at h ⊢
    · linarith
    all_goals constructor <;> linarith

/-- Shifting by `n` places is shifting by one place so often, so what holds of one shift
(`Represents.shiftRightOne`) holds of all. -/
theorem Represents.shiftRight (h : Represents em w) (n : Nat) : Represents (em >>> n) (w / 2 ^ n) := by
  show Represents (n.repeat ExtendedMantissa.shiftRightOne em) _
  induction n with
  | zero => simpa [Nat.repeat] using h
  | succ n ih =>
    rw [Nat.repeat, pow_succ, ← div_div]
    exact ih.shiftRightOne

/-- Whole numbers that are less than one apart are the same. This is how a rounded mantissa is told
to be the nearest one: both lie within half of the same number. -/
theorem eq_of_near {n m : Nat} (hlow : (n : ℚ) < m + 1) (hhigh : (m : ℚ) < n + 1) : n = m := by
  have hle : n < m + 1 := by exact_mod_cast hlow
  have hge : m < n + 1 := by exact_mod_cast hhigh
  omega

/-- A mantissa is rounded to the whole number that its number is nearest to. -/
theorem Represents.roundedMantissa_eq (h : Represents em w) {m : Nat} (hm : RoundsTo w m) :
    em.roundedMantissa = m := by
  have hlow : (m : ℚ) ≤ w + 1 / 2 := by rcases hm with hm | hm <;> linarith
  have hhigh : w ≤ m + 1 / 2 := by rcases hm with hm | hm <;> linarith
  obtain ⟨n, roundBit, stickyBit⟩ := em
  cases roundBit with
  | false =>
    -- The number is less than a half above `n`.
    have hn : n ≤ w ∧ w < n + 1 / 2 := by
      cases stickyBit <;> simp only [Represents] at h <;> constructor <;> linarith
    have hround : ExtendedMantissa.roundedMantissa ⟨n, false, stickyBit⟩ = n := by
      cases stickyBit <;> rfl
    rw [hround]
    exact eq_of_near (by linarith) (by linarith)
  | true =>
    cases stickyBit with
    | true =>
      -- It is more than a half above `n`.
      simp only [Represents] at h
      show n + 1 = m
      refine eq_of_near ?_ ?_ <;> push_cast <;> linarith
    | false =>
      -- It is halfway, so it goes to the even side.
      simp only [Represents] at h
      show n + n % 2 = m
      rcases hm with ⟨hbelow, habove⟩ | ⟨heven, -, -⟩
      · have hself : n = m := eq_of_near (by linarith) (by linarith)
        rw [← hself] at habove
        linarith
      · have hle : (n : ℚ) ≤ m := by linarith
        have hge : (m : ℚ) ≤ (n + 1 : Nat) := by
          push_cast
          linarith
        have hle : n ≤ m := by exact_mod_cast hle
        have hge : m ≤ n + 1 := by exact_mod_cast hge
        omega

/-- A quotient of whole numbers is represented by its whole part and what is known of the rest. -/
theorem represents_div (n : Nat) {d : Nat} (hd : 0 < d) :
    Represents (.ofMantissaAndAccuracy (n / d) (accuracyOfFraction (n % d) d)) ((n : ℚ) / d) := by
  have hd' : (0 : ℚ) < d := by exact_mod_cast hd
  have hn : ((n / d : Nat) : ℚ) * d + ((n % d : Nat) : ℚ) = n := by
    exact_mod_cast Nat.div_add_mod' n d
  have hr : ((n % d : Nat) : ℚ) < d := by exact_mod_cast Nat.mod_lt n hd
  -- The quotient is its whole part and a fraction below one, and the accuracy notes how that
  -- fraction compares with zero and with a half.
  have hw : (n : ℚ) / d = (n / d : Nat) + ((n % d : Nat) : ℚ) / d := by
    rw [← hn]
    field_simp
  rw [hw]
  generalize n / d = q, n % d = r at hr
  unfold accuracyOfFraction
  split
  · next hzero => simp [hzero, Represents, ExtendedMantissa.ofMantissaAndAccuracy]
  · next hzero =>
    have hpos : (0 : ℚ) < r := by exact_mod_cast Nat.pos_of_ne_zero hzero
    cases hcompare : compare (2 * r) d with
    | lt =>
      have hlt : (2 : ℚ) * r < d := by exact_mod_cast Nat.compare_eq_lt.mp hcompare
      have hhalf : (r : ℚ) / d < 1 / 2 := by
        rw [div_lt_div_iff₀ hd' two_pos]
        linarith
      show (q : ℚ) < q + r / d ∧ (q : ℚ) + r / d < q + 1 / 2
      exact ⟨lt_add_of_pos_right _ (div_pos hpos hd'), by linarith⟩
    | eq =>
      have heq : (2 : ℚ) * r = d := by exact_mod_cast Nat.compare_eq_eq.mp hcompare
      have hhalf : (r : ℚ) / d = 1 / 2 := by
        rw [div_eq_div_iff hd'.ne' two_ne_zero]
        linarith
      show (q : ℚ) + r / d = q + 1 / 2
      rw [hhalf]
    | gt =>
      have hgt : (d : ℚ) < 2 * r := by exact_mod_cast Nat.compare_eq_gt.mp hcompare
      have hhalf : 1 / 2 < (r : ℚ) / d := by
        rw [div_lt_div_iff₀ two_pos hd']
        linarith
      have hone : (r : ℚ) / d < 1 := (div_lt_one hd').mpr hr
      show (q : ℚ) + 1 / 2 < q + r / d ∧ (q : ℚ) + r / d < q + 1
      exact ⟨by linarith, by linarith⟩

end Mantissas

/-! ### Floats of the format -/

/-- A power with a possibly negative exponent is a quotient of two, of which one is one. A search
that works in whole numbers multiplies by the one and by the other (`Binary.scales`), and so does
the test of a float against a whole number (`isWhole`). -/
theorem zpow_eq_div {b : ℚ} (hb : b ≠ 0) (k : Int) : b ^ k = b ^ k.toNat / b ^ (-k).toNat := by
  rw [← zpow_natCast, ← zpow_natCast, ← zpow_sub₀ hb]
  congr 1
  omega

/-- The mantissa and the exponent of a finite float: the mantissa has all its bits unless the
exponent is the least. -/
structure Canonical (m : Nat) (e : Int) : Prop where
  pos : 0 < m
  lt : m < 2 ^ 53
  le : -1074 ≤ e
  full : 2 ^ 52 ≤ m ∨ e = -1074

/-- The numbers that a finite float is nearest to. Below a power of two the floats are closer, so
there it is a quarter of a place that is halfway to the next one. -/
def Names (v : ℚ) (m : Nat) (e : Int) : Prop :=
  if m = 2 ^ 52 ∧ -1074 < e then 2 ^ 52 - 1 / 4 ≤ v / 2 ^ e ∧ v / 2 ^ e ≤ 2 ^ 52 + 1 / 2
  else RoundsTo (v / 2 ^ e) m

section Format

variable {v : ℚ} {m : Nat} {e : Int}

/-- A number is at most a half away from the whole number to which it is rounded, also where it lies
in the middle and is rounded to the even one. -/
theorem RoundsTo.bounds {w : ℚ} (h : RoundsTo w m) : m - 1 / 2 ≤ w ∧ w ≤ m + 1 / 2 := by
  rcases h with h | h <;> constructor <;> linarith

/-- A float is nearest to itself: its own value lies in the middle of what names it. A whole number
that is exact as a float is read through this. -/
theorem names_self (m : Nat) (e : Int) : Names (m * 2 ^ e) m e := by
  have hscale : (m : ℚ) * 2 ^ e / 2 ^ e = m := mul_div_cancel_right₀ _ (by positivity)
  unfold Names
  rw [hscale]
  split
  · next h =>
    rw [h.1]
    norm_num
  · exact .inl ⟨by linarith, by linarith⟩

/-- What a float is nearest to, it is not far from: half a unit of its last place to either side.
The bounds hold at the ends too, where a tie goes to the even mantissa. -/
theorem Names.bounds (h : Names v m e) : m - 1 / 2 ≤ v / 2 ^ e ∧ v / 2 ^ e ≤ m + 1 / 2 := by
  unfold Names at h
  split at h
  · next hm =>
    rw [hm.1]
    constructor <;> push_cast <;> linarith
  · exact h.bounds

/-- A number that names a float lies below the power of two that no mantissa reaches, so its whole
part has at most the bits of a mantissa. `roundWithAccuracy_of_names` needs this to know the
exponent that the arithmetic chooses. -/
theorem Names.lt (h : Names v m e) (hc : Canonical m e) : v < 2 ^ (e + 53) := by
  have hle : (m : ℚ) ≤ 2 ^ 53 - 1 := by
    have : m + 1 ≤ 2 ^ 53 := hc.lt
    have : (m : ℚ) + 1 ≤ 2 ^ 53 := by exact_mod_cast this
    linarith
  have hw : v / 2 ^ e < 2 ^ 53 := by linarith [h.bounds.2]
  rw [zpow_add₀ two_ne_zero, mul_comm]
  exact (div_lt_iff₀ (by positivity)).mp hw

/-- A number that names a float is at least half of one in its last place, because the mantissa is
not zero. -/
theorem Names.le (h : Names v m e) (hc : Canonical m e) : 2 ^ (e - 1) ≤ v := by
  have hge : (1 : ℚ) ≤ m := by exact_mod_cast hc.pos
  have hw : 1 / 2 ≤ v / 2 ^ e := by linarith [h.bounds.1]
  rw [zpow_sub_one₀ two_ne_zero]
  have := (le_div_iff₀ (by positivity)).mp hw
  linarith

/-- Where a float is a power of two, a number below it that it is nearest to is rounded at the
exponent of the floats below. -/
theorem Names.cases (h : Names v m e) (hc : Canonical m e) :
    (RoundsTo (v / 2 ^ e) m ∧ (2 ^ (e + 52) ≤ v ∨ e = -1074)) ∨
      (m = 2 ^ 52 ∧ -1074 ≤ e - 1 ∧ RoundsTo (v / 2 ^ (e - 1)) (2 ^ 53) ∧
        2 ^ (e - 1 + 52) ≤ v ∧ v < 2 ^ (e - 1 + 53)) := by
  -- A number with a full mantissa at some exponent is as large as that exponent asks for.
  have hfull : ∀ t : Int, 2 ^ 52 ≤ v / 2 ^ t → 2 ^ (t + 52) ≤ v := by
    intro t hw
    rw [zpow_add₀ two_ne_zero, mul_comm]
    exact (le_div_iff₀ (by positivity)).mp hw
  have hne : ¬(m = 2 ^ 52 ∧ -1074 < e) → RoundsTo (v / 2 ^ e) m →
      2 ^ 52 ≤ v / 2 ^ e ∨ e = -1074 := by
    intro hm hround
    rcases hc.full with hge | hmin
    · rcases hc.le.lt_or_eq with hlt | hmin
      · -- The mantissa is above the power of two, and the number at most half a place below it.
        have hgt : 2 ^ 52 + 1 ≤ m := Nat.lt_of_le_of_ne hge fun heq => hm ⟨heq.symm, hlt⟩
        have hgt : (2 : ℚ) ^ 52 + 1 ≤ m := by exact_mod_cast hgt
        exact .inl (by linarith [hround.bounds.1])
      · exact .inr hmin.symm
    · exact .inr hmin
  unfold Names at h
  split at h
  · -- The least mantissa of an exponent is the one case in which a number may lie below its float
    -- at half the distance, because there the floats are twice as close.
    next hm =>
    obtain ⟨rfl, he⟩ := hm
    by_cases hw : 2 ^ 52 ≤ v / 2 ^ e
    · refine .inl ⟨.inr ⟨by decide, ?_, ?_⟩, .inl (hfull e hw)⟩ <;> push_cast <;> linarith
    · -- Below the power of two the number is rounded at the exponent before, up to a mantissa that
      -- is one bit too long.
      have hhalf : v / 2 ^ (e - 1) = v / 2 ^ e * 2 := by
        rw [zpow_sub_one₀ two_ne_zero]
        field_simp
      have hbelow : v / 2 ^ (e - 1) < 2 ^ 53 := by
        rw [hhalf]
        linarith
      refine .inr ⟨rfl, by omega, .inr ⟨by decide, ?_, ?_⟩, hfull (e - 1) ?_, ?_⟩
      · rw [hhalf]
        push_cast
        linarith
      · push_cast
        linarith
      · rw [hhalf]
        linarith
      · rw [zpow_add₀ two_ne_zero, mul_comm]
        exact (div_lt_iff₀ (by positivity)).mp hbelow
  · next hm => exact .inl ⟨h, (hne hm h).imp_left (hfull e)⟩

/-- The exponent at which a number is rounded: the one at which it has all the bits of the format,
or the least. -/
theorem targetExponent_eq {n : Nat} {f t : Int} (hlow : n * 2 ^ f ≤ v) (hhigh : v < (n + 1) * 2 ^ f)
    (hft : f ≤ t) (hmin : -1074 ≤ t) (hv : v < 2 ^ (t + 53)) (hfull : 2 ^ (t + 52) ≤ v ∨ t = -1074) :
    Format.binary64.targetExponent (totalExponent n f) = t := by
  show max ((n.log2 : Int) + 1 + f - 53) (-1074) = t
  -- The first bit of the mantissa is where the number is, up to what has been cut off.
  have hbelow : v < 2 ^ ((n.log2 : Int) + 1 + f) := by
    have hle : ((n + 1 : Nat) : ℚ) ≤ 2 ^ (n.log2 + 1) := by
      exact_mod_cast Nat.succ_le_of_lt (Nat.lt_log2_self (n := n))
    rw [zpow_add₀ two_ne_zero]
    refine hhigh.trans_le (mul_le_mul_of_nonneg_right ?_ (by positivity))
    exact_mod_cast hle
  have hupper : 2 ^ (t + 52) ≤ v → t + 52 < n.log2 + 1 + f := by
    intro h
    exact (zpow_lt_zpow_iff_right₀ one_lt_two).mp (h.trans_lt hbelow)
  rcases Nat.eq_zero_or_pos n with rfl | hpos
  · -- A mantissa without a bit leaves only the least exponent.
    rcases hfull with h | rfl
    · have := hupper h
      simp at this
      omega
    · simp
      omega
  · have hlower : (n.log2 : Int) + f < t + 53 := by
      have hle : ((2 ^ n.log2 : Nat) : ℚ) ≤ n := by
        exact_mod_cast Nat.log2_self_le (Nat.pos_iff_ne_zero.mp hpos)
      have habove : 2 ^ ((n.log2 : Int) + f) ≤ v := by
        rw [zpow_add₀ two_ne_zero]
        refine le_trans (mul_le_mul_of_nonneg_right ?_ (by positivity)) hlow
        exact_mod_cast hle
      exact (zpow_lt_zpow_iff_right₀ one_lt_two).mp (habove.trans_lt hv)
    rcases hfull with h | rfl
    · have := hupper h
      omega
    · omega

end Format

/-! ### Rounding to the format -/

section Round

variable {v : ℚ} {m n : Nat} {e f t : Int} {accuracy : Accuracy} (s : Sign)

/-- Noting how exact a mantissa is does not change it. -/
theorem mantissa_ofMantissaAndAccuracy :
    (ExtendedMantissa.ofMantissaAndAccuracy n accuracy).mantissa = n := by
  cases accuracy with
  | exact => rfl
  | inexact side => cases side <;> rfl

/-- Where the mantissa has too many bits, it is shifted to the exponent at which it has as many as a
float holds. This opens the first step of rounding; the second, `roundedMantissa`, is opened by
`Represents.roundedMantissa_eq`. -/
theorem shiftToTargetExponent_eq
    (htarget : Format.binary64.targetExponent (totalExponent n f) = t) (hft : f ≤ t) :
    shiftToTargetExponent .binary64 n f accuracy
      = (ExtendedMantissa.ofMantissaAndAccuracy n accuracy >>> (t - f).toNat, t) := by
  have ht : f + ((t - f).toNat : Int) = t := by omega
  rw [shiftToTargetExponent, htarget, shiftToExponent, ht]

/-- A mantissa that has been rounded at its exponent is looked at once more, since it may have got a
bit too many. -/
theorem roundWithAccuracy_eq (hrep : Represents (.ofMantissaAndAccuracy n accuracy) (v / 2 ^ f))
    (htarget : Format.binary64.targetExponent (totalExponent n f) = t) (hft : f ≤ t)
    (hround : RoundsTo (v / 2 ^ t) m) {m' : Nat} {t' : Int}
    (hagain : Format.binary64.targetExponent (totalExponent m t) = t') (htt : t ≤ t')
    (hm : m / 2 ^ (t' - t).toNat = m') (hpos : 0 < m') :
    roundWithAccuracy .binary64 s n f accuracy = .finite s m' t' hpos := by
  have hscale : v / 2 ^ f / 2 ^ (t - f).toNat = v / 2 ^ t := by
    rw [div_div, ← zpow_natCast, ← zpow_add₀ two_ne_zero]
    congr 2
    omega
  -- The first shift and the rounding give the mantissa to which the number is rounded.
  have hrounded : (ExtendedMantissa.ofMantissaAndAccuracy n accuracy >>> (t - f).toNat).roundedMantissa
      = m := by
    refine Represents.roundedMantissa_eq ?_ hround
    rw [← hscale]
    exact hrep.shiftRight _
  -- The second shift makes room where rounding up has made the mantissa one bit longer.
  have hfinal : (ExtendedMantissa.ofMantissaAndAccuracy m .exact >>> (t' - t).toNat).mantissa = m' := by
    rw [mantissa_shiftRight]
    exact hm
  simp only [roundWithAccuracy, shiftToTargetExponent_eq htarget hft, hrounded,
    shiftToTargetExponent_eq hagain htt, hfinal]
  exact dif_neg (Nat.pos_iff_ne_zero.mp hpos)

/-- A number that a float is nearest to is rounded to that float, whatever mantissa represents it:
it only has to be fine enough for the format. -/
theorem roundWithAccuracy_of_names
    (hrep : Represents (.ofMantissaAndAccuracy n accuracy) (v / 2 ^ f))
    (hc : Canonical m e) (hnames : Names v m e)
    (hfine : ∀ t, -1074 ≤ t → v < 2 ^ (t + 53) → f ≤ t) :
    roundWithAccuracy .binary64 s n f accuracy = .finite s m e hc.pos := by
  -- What is cut off of the number lies between two neighbours at the given exponent.
  have hlow : n * 2 ^ f ≤ v := by
    have hle := hrep.bounds.1
    rw [mantissa_ofMantissaAndAccuracy] at hle
    exact (le_div_iff₀ (by positivity)).mp hle
  have hhigh : v < (n + 1) * 2 ^ f := by
    have hlt := hrep.bounds.2
    rw [mantissa_ofMantissaAndAccuracy] at hlt
    exact (div_lt_iff₀ (by positivity)).mp hlt
  rcases hnames.cases hc with ⟨hround, hfull⟩ | ⟨rfl, hmin, hround, hfull, hlt⟩
  · have hlt := hnames.lt hc
    have hfe := hfine e hc.le hlt
    have htarget := targetExponent_eq hlow hhigh hfe hc.le hlt hfull
    -- Rounding again, at the exponent of the float, changes nothing.
    have hself : Format.binary64.targetExponent (totalExponent m e) = e := by
      refine targetExponent_eq le_rfl ?_ le_rfl hc.le ((names_self m e).lt hc) ?_
      · exact mul_lt_mul_of_pos_right (lt_add_one _) (by positivity)
      · refine hc.full.imp_left ?_
        intro hge
        rw [zpow_add₀ two_ne_zero, mul_comm]
        exact mul_le_mul_of_nonneg_right (by exact_mod_cast hge) (by positivity)
    exact roundWithAccuracy_eq s hrep htarget hfe hround hself le_rfl (by simp) hc.pos
  · -- The mantissa gets a bit too many, which makes it the power of two.
    have hfe := hfine (e - 1) hmin hlt
    have htarget := targetExponent_eq hlow hhigh hfe hmin hlt (.inl hfull)
    have hcarry : Format.binary64.targetExponent (totalExponent (2 ^ 53) (e - 1)) = e := by
      show max (((2 ^ 53 : Nat).log2 : Int) + 1 + (e - 1) - 53) (-1074) = e
      rw [Nat.log2_two_pow]
      omega
    refine roundWithAccuracy_eq s hrep htarget hfe hround hcarry (by omega) ?_ hc.pos
    rw [show (e - (e - 1)).toNat = 1 by omega]
    rfl

end Round

/-! ### Products and quotients -/

section Operations

variable {v : ℚ} {m m₁ m₂ : Nat} {e e₁ e₂ : Int} (s₁ s₂ : Sign) (h₁ : 0 < m₁) (h₂ : 0 < m₂)

/-- A mantissa with all the bits of the format is fine enough for it. -/
theorem le_of_bits {n : Nat} {f t : Int} (hbits : 2 ^ 52 ≤ n) (hlow : n * 2 ^ f ≤ v)
    (hlt : v < 2 ^ (t + 53)) : f ≤ t := by
  have hge : 2 ^ (f + 52) ≤ v := by
    rw [zpow_add₀ two_ne_zero, mul_comm]
    exact le_trans (mul_le_mul_of_nonneg_right (by exact_mod_cast hbits) (by positivity)) hlow
  have hexponent := (zpow_lt_zpow_iff_right₀ one_lt_two).mp (hge.trans_lt hlt)
  omega

/-- The product of two floats is the float that the product of their numbers is nearest to. -/
theorem mul_eq_of_names (hbits : 2 ^ 52 ≤ m₁ * m₂) (hv : v = m₁ * 2 ^ e₁ * (m₂ * 2 ^ e₂))
    (hc : Canonical m e) (hnames : Names v m e) :
    UnpackedFloat.mul .binary64 (.finite s₁ m₁ e₁ h₁) (.finite s₂ m₂ e₂ h₂)
      = .finite (s₁ * s₂) m e hc.pos := by
  have hscaled : v = (m₁ * m₂ : Nat) * 2 ^ (e₁ + e₂) := by
    rw [hv, zpow_add₀ two_ne_zero]
    push_cast
    ring
  have hrep : Represents (.ofMantissaAndAccuracy (m₁ * m₂) .exact) (v / 2 ^ (e₁ + e₂)) := by
    rw [hscaled, mul_div_cancel_right₀ _ (by positivity)]
    exact represents_exact _
  exact roundWithAccuracy_of_names (s₁ * s₂) hrep hc hnames
    fun t _ hlt => le_of_bits hbits hscaled.ge hlt

/-- A mantissa and an exponent are below the power of two at the first bit, and not below half of
it. -/
theorem totalExponent_bounds {n : Nat} (hn : 0 < n) (f : Int) :
    (2 : ℚ) ^ (totalExponent n f - 1) ≤ n * 2 ^ f ∧ n * (2 : ℚ) ^ f < 2 ^ totalExponent n f := by
  have hlow : ((2 ^ n.log2 : Nat) : ℚ) ≤ n := by
    exact_mod_cast Nat.log2_self_le (Nat.pos_iff_ne_zero.mp hn)
  have hhigh : (n : ℚ) < (2 ^ (n.log2 + 1) : Nat) := by exact_mod_cast Nat.lt_log2_self
  have hexponent : totalExponent n f - 1 = n.log2 + f := by
    rw [totalExponent]
    omega
  constructor
  · rw [hexponent, zpow_add₀ two_ne_zero]
    exact mul_le_mul_of_nonneg_right (by exact_mod_cast hlow) (by positivity)
  · rw [totalExponent, zpow_add₀ two_ne_zero]
    exact mul_lt_mul_of_pos_right (by exact_mod_cast hhigh) (by positivity)

/-- The quotient of two floats is the float that the quotient of their numbers is nearest to. -/
theorem div_eq_of_names (hv : v = m₁ * 2 ^ e₁ / (m₂ * 2 ^ e₂)) (hc : Canonical m e)
    (hnames : Names v m e) :
    UnpackedFloat.div .binary64 (.finite s₁ m₁ e₁ h₁) (.finite s₂ m₂ e₂ h₂)
      = .finite (s₁ / s₂) m e hc.pos := by
  obtain ⟨t, ht⟩ : ∃ t, min (e₁ - e₂) (Format.binary64.targetExponent
      (totalExponent m₁ e₁ - totalExponent m₂ e₂)) = t := ⟨_, rfl⟩
  have hle : t ≤ e₁ - e₂ := ht ▸ min_le_left _ _
  -- The dividend is moved up so far that the quotient has all the bits of the format.
  have hscaled : v / 2 ^ t = ((m₁ <<< (e₁ - e₂ - t).toNat : Nat) : ℚ) / m₂ := by
    have hpow : (2 : ℚ) ^ (e₁ - e₂ - t).toNat = 2 ^ e₁ / 2 ^ e₂ / 2 ^ t := by
      rw [← zpow_natCast, ← zpow_sub₀ two_ne_zero, ← zpow_sub₀ two_ne_zero]
      congr 1
      omega
    rw [hv, Nat.shiftLeft_eq]
    push_cast
    rw [hpow]
    field_simp
  have hrep : Represents (.ofMantissaAndAccuracy (m₁ <<< (e₁ - e₂ - t).toNat / m₂)
      (accuracyOfFraction (m₁ <<< (e₁ - e₂ - t).toNat % m₂) m₂)) (v / 2 ^ t) := by
    rw [hscaled]
    exact represents_div _ h₂
  have hround := roundWithAccuracy_of_names (s₁ / s₂) hrep hc hnames ?_
  · rw [← hround]
    simp only [UnpackedFloat.div, divCore, ht]
  · intro t' hmin hlt
    -- The quotient is at least the power of two that its exponent is chosen for.
    have hge : (2 : ℚ) ^ (totalExponent m₁ e₁ - 1 - totalExponent m₂ e₂) ≤ v := by
      rw [hv, zpow_sub₀ two_ne_zero]
      exact div_le_div₀ (by positivity) (totalExponent_bounds h₁ e₁).1 (by positivity)
        (totalExponent_bounds h₂ e₂).2.le
    have hlt := (zpow_lt_zpow_iff_right₀ one_lt_two).mp (hge.trans_lt hlt)
    have htarget : t ≤ max (totalExponent m₁ e₁ - totalExponent m₂ e₂ - 53) (-1074) :=
      ht ▸ min_le_right _ _
    omega

end Operations

end EchoBench.Proofs.Decimal
