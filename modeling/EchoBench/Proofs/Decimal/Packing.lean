import EchoBench.Decimal.Shortest
import EchoBench.Proofs.Decimal.Rounding

/-!
# `EchoBench.Proofs.Decimal.Packing`: the parts of a float and its bits

Every operation of core takes its floats apart, works on a sign, a mantissa and an exponent, and
packs what it got into sixty-four bits. Three things are said here of that last step.

`unpack_pack`: the parts of a float are found again when they have been packed. The mantissa loses
its first bit on the way, and the field of the exponent says whether there was one (`HasFields`).

`unpack_eq_zero_or_ofFloat`: a float that is finite is a zero, or its parts are those of the binary
number whose shortest decimal is looked for (`Binary.ofFloat`). So the search for that decimal and
the operations of core speak of the same mantissa and the same exponent.

`isFinite_of_inRange`: what is packed is finite if its exponent is not above that of the greatest
floats. Rounding may raise an exponent by one, so what is rounded has to be below half of them
(`inRange_roundWithAccuracy`); the quotient by a float that is two or more is
(`inRange_div`), and a product is finite or infinite and nothing else (`isFinite_of_not_isInf`).
-/

set_option autoImplicit false

namespace EchoBench.Proofs.Decimal

open Float.Model
open Float.Model.UnpackedFloat
open EchoBench.Decimal (Binary fractions)

/-! ### Packing -/

section Packing

variable {m : Nat} {e : Int}

/-- The sign that was packed is the one that is unpacked. Feeds `unpack_pack`, which finds the two
other fields by the lemmas of core. -/
theorem ofBitVec_unpackSign_packComponents (s : Sign) (exponent : BitVec 11) (fraction : BitVec 52) :
    Sign.ofBitVec (unpackSign (packComponents .binary64 s exponent fraction)) = s := by
  -- The sign stands in front of the two other parts.
  rw [unpackSign, packComponents, BitVec.extractLsb, BitVec.extractLsb'_append_eq_of_le (by decide),
    BitVec.extractLsb'_append_eq_of_le (by decide)]
  cases s <;> rfl

/-- What the two fields of a float say of its mantissa and its exponent. The field of the exponent
is zero where the mantissa has no leading bit of its own. -/
def HasFields (field fraction m : Nat) (e : Int) : Prop :=
  (field = 0 ∧ fraction = m ∧ e = -1074) ∨
    (1 ≤ field ∧ field ≤ 2046 ∧ 2 ^ 52 + fraction = m ∧ (field : Int) = e + 1075)

/-- The leading bit that is not stored is worth two to the power of fifty-two, since fifty-two bits
are stored behind it. -/
theorem toNat_leading_append (fraction : BitVec 52) :
    (1#1 ++ fraction).toNat = 2 ^ 52 + fraction.toNat := by
  rw [BitVec.toNat_append, ← Nat.shiftLeft_add_eq_or_of_lt fraction.isLt]
  rfl

/-- A finite float is unpacked as its fields say. Neither case of `HasFields` has the field of ones
that stands for infinities and for what is no number. -/
theorem unpack_eq_finite {b : BitVec Format.binary64.numBits} (hm : 0 < m)
    (h : HasFields (unpackExponent b).toNat (unpackMantissa b).toNat m e) :
    UnpackedFloat.unpack .binary64 b = .finite (.ofBitVec (unpackSign b)) m e hm := by
  have hbias : (Format.binary64.exponentBias : Int) + Format.binary64.mantissaBitsWithoutImplicit
      = 1075 := rfl
  -- A field of ones would be that of an infinity or of no number.
  have hnan : unpackExponent b ≠ -1#11 := by
    intro hones
    have hfield := congrArg BitVec.toNat hones
    have hgreatest : (-1#11).toNat = 2047 := rfl
    rcases h with h | h <;> omega
  unfold UnpackedFloat.unpack
  simp only [hbias]
  rw [if_neg hnan]
  rcases h with ⟨hfield, rfl, rfl⟩ | ⟨hlow, -, rfl, hfield⟩
  · have hzero : unpackExponent b = 0#11 := BitVec.eq_of_toNat_eq hfield
    have hfraction : unpackMantissa b ≠ 0#52 := by
      intro hnone
      rw [hnone] at hm
      exact absurd hm (by decide)
    rw [if_pos hzero, dif_neg hfraction]
    simp [hfield]
  · have hnormal : unpackExponent b ≠ 0#11 := by
      intro hnone
      rw [hnone] at hlow
      exact absurd hlow (by decide)
    rw [if_neg hnormal]
    congr 1
    · exact toNat_leading_append _
    · omega

/-- Without a bit in its two fields a float is a zero, of the sign that its first bit gives. It is
the case that the lemmas on magnitudes leave out. -/
theorem unpack_eq_zero {b : BitVec Format.binary64.numBits} (hfield : (unpackExponent b).toNat = 0)
    (hfraction : (unpackMantissa b).toNat = 0) :
    UnpackedFloat.unpack .binary64 b = .zero (.ofBitVec (unpackSign b)) := by
  have hexponent : unpackExponent b = 0#11 := BitVec.eq_of_toNat_eq hfield
  have hmantissa : unpackMantissa b = 0#52 := BitVec.eq_of_toNat_eq hfraction
  unfold UnpackedFloat.unpack
  simp only [hexponent, hmantissa]
  rfl

/-- A mantissa of the format has fifty-three bits at most. -/
theorem Canonical.log2_lt (hc : Canonical m e) : m.log2 < 53 :=
  (Nat.log2_lt (Nat.pos_iff_ne_zero.mp hc.pos)).mpr hc.lt

/-- A mantissa has all its bits exactly if its first bit is the one that is not stored. This is the
test by which `pack` chooses the field of the exponent. -/
theorem Canonical.log2_eq_iff (hc : Canonical m e) : m.log2 = 52 ↔ 2 ^ 52 ≤ m := by
  rw [← Nat.le_log2 (Nat.pos_iff_ne_zero.mp hc.pos)]
  have hlt := hc.log2_lt
  omega

/-- The fields into which a finite float is packed. A mantissa without all its bits is that of a
float below the normal ones, and its field is zero. -/
theorem pack_eq_packComponents (s : Sign) (hc : Canonical m e) {field : Nat}
    (hfield : (field : Int) = e + 1075) (hle : field ≤ 2046) :
    UnpackedFloat.pack .binary64 (.finite s m e hc.pos) = packComponents .binary64 s
      (if m.log2 = 52 then BitVec.ofNat 11 field else 0) (BitVec.ofNat 52 m) := by
  have hbiased : (e + (Format.binary64.exponentBias : Nat)
      + (Format.binary64.mantissaBitsWithoutImplicit : Nat)).toNat = field := by
    show (e + 1023 + 52).toNat = field
    omega
  simp only [UnpackedFloat.pack, hbiased]
  rw [if_neg (show ¬2 ^ 11 ≤ field + 1 by omega)]
  split
  · next hlog =>
    have hlog : m.log2 + 1 = 52 + 1 := hlog
    rw [if_pos (Nat.succ.inj hlog)]
  · next hlog =>
    have hlog : ¬m.log2 + 1 = 52 + 1 := hlog
    rw [if_neg fun h => hlog (congrArg (· + 1) h)]
    rfl

/-- The parts of a finite float are found again when it has been packed. The bound on the exponent
is that of the greatest floats; above it `pack` makes an infinity. -/
theorem unpack_pack (s : Sign) (hc : Canonical m e) (he : e ≤ 971) :
    UnpackedFloat.unpack .binary64 (UnpackedFloat.pack .binary64 (.finite s m e hc.pos))
      = .finite s m e hc.pos := by
  have hlt := hc.lt
  have hmin := hc.le
  obtain ⟨field, hfield⟩ : ∃ field : Nat, (field : Int) = e + 1075 := ⟨(e + 1075).toNat, by omega⟩
  rw [pack_eq_packComponents s hc hfield (by omega), unpack_eq_finite hc.pos,
    ofBitVec_unpackSign_packComponents]
  rw [unpackExponent_packComponents, unpackMantissa_packComponents]
  split
  · next hlog =>
    -- All bits of the mantissa are there, and the first is left out.
    have hge : 2 ^ 52 ≤ m := hc.log2_eq_iff.mp hlog
    refine .inr ?_
    show 1 ≤ field % 2 ^ 11 ∧ field % 2 ^ 11 ≤ 2046 ∧ 2 ^ 52 + m % 2 ^ 52 = m ∧
      ((field % 2 ^ 11 : Nat) : Int) = e + 1075
    omega
  · next hlog =>
    -- The first bit is missing, which is so only at the least exponent.
    have hless : ¬2 ^ 52 ≤ m := fun hge => hlog (hc.log2_eq_iff.mpr hge)
    exact .inl ⟨rfl, Nat.mod_eq_of_lt (Nat.lt_of_not_le hless), hc.full.resolve_left hless⟩

end Packing

/-! ### The parts of a float -/

/-- A binary number that is the magnitude of a finite float: its mantissa is canonical for its
exponent, the exponent is one of the format, and the gap below it is the smaller one exactly at a
power of two. The shortest decimal is searched for such numbers only. -/
structure IsMagnitude (b : Binary) : Prop where
  canonical : Canonical b.mantissa b.exponent
  exponent_le : b.exponent ≤ 971
  closeBelow : b.closeBelow = true ↔ b.mantissa = 2 ^ 52 ∧ -1074 < b.exponent

section Parts

/-- The fifty-two lowest bits are those of the mantissa, without the leading one that a normal float
leaves out. -/
theorem toNat_unpackMantissa (b : BitVec Format.binary64.numBits) :
    (unpackMantissa b).toNat = b.toNat % fractions := by
  show (BitVec.cast _ (b.extractLsb 51 0)).toNat = _
  rw [BitVec.toNat_cast, BitVec.extractLsb_toNat]
  rfl

/-- The eleven bits above them are those of the exponent. With the mantissa below, the fields make
up the number that the bits are, which is what packing has to give back. -/
theorem toNat_unpackExponent (b : BitVec Format.binary64.numBits) :
    (unpackExponent b).toNat = b.toNat / fractions % 2048 := by
  show (BitVec.cast _ (b.extractLsb 62 52)).toNat = _
  rw [BitVec.toNat_cast, BitVec.extractLsb_toNat, Nat.shiftRight_eq_div_pow]
  rfl

/-- A float is finite exactly if the field of its exponent is not the greatest. -/
theorem isFinite_unpack_iff (b : BitVec Format.binary64.numBits) :
    (UnpackedFloat.unpack .binary64 b).isFinite = true ↔ (unpackExponent b).toNat < 2047 := by
  have hones : unpackExponent b = -1#11 ↔ (unpackExponent b).toNat = 2047 :=
    BitVec.toNat_inj.symm
  have hlt : (unpackExponent b).toNat < 2048 := (unpackExponent b).isLt
  unfold UnpackedFloat.unpack
  dsimp only
  split
  · next hfield =>
    have hfield := hones.mp hfield
    split <;> simp [UnpackedFloat.isFinite, hfield]
  · next hfield =>
    have hfield : (unpackExponent b).toNat ≠ 2047 := fun h => hfield (hones.mpr h)
    have hless : (unpackExponent b).toNat < 2047 := by omega
    split
    · split <;> simp [UnpackedFloat.isFinite, hless]
    · simp [UnpackedFloat.isFinite, hless]

/-- The bits of a float, through which core's unpacked form and the three fields are compared. -/
def bitsOf (x : Float) : BitVec Format.binary64.numBits :=
  x.toBits.toBitVec

/-- The binary number of a float, said by the fields that core unpacks instead of by arithmetic on
all the bits. -/
theorem ofFloat_eq (x : Float) :
    Binary.ofFloat x = if (unpackExponent (bitsOf x)).toNat = 0 then
      ⟨(unpackMantissa (bitsOf x)).toNat, -1074, false⟩
    else ⟨2 ^ 52 + (unpackMantissa (bitsOf x)).toNat, (unpackExponent (bitsOf x)).toNat - 1075,
      decide ((unpackMantissa (bitsOf x)).toNat = 0 ∧ 1 < (unpackExponent (bitsOf x)).toNat)⟩ := by
  rw [toNat_unpackExponent, toNat_unpackMantissa]
  rfl

/-- A finite float is a zero, or its magnitude is the binary number whose decimal is looked for.
Every proof about a finite float goes by these two cases, since zeros have no canonical parts. -/
theorem unpack_eq_zero_or_ofFloat {x : Float} (hfinite : x.isFinite = true) :
    (∃ s, x.toModel.unpack = .zero s) ∨
      ∃ h : IsMagnitude (.ofFloat x), x.toModel.unpack
        = .finite (.ofBitVec (unpackSign (bitsOf x))) (Binary.ofFloat x).mantissa
          (Binary.ofFloat x).exponent h.canonical.pos := by
  have hlt : (unpackExponent (bitsOf x)).toNat < 2047 :=
    (isFinite_unpack_iff (bitsOf x)).mp hfinite
  have hbits : (unpackMantissa (bitsOf x)).toNat < 2 ^ 52 := (unpackMantissa (bitsOf x)).isLt
  have hfields : HasFields (unpackExponent (bitsOf x)).toNat (unpackMantissa (bitsOf x)).toNat
      (Binary.ofFloat x).mantissa (Binary.ofFloat x).exponent := by
    rw [ofFloat_eq]
    split
    · next hfield => exact .inl ⟨hfield, rfl, rfl⟩
    · next hfield =>
      refine .inr ⟨by omega, by omega, rfl, ?_⟩
      show _ = (((unpackExponent (bitsOf x)).toNat : Int) - 1075) + 1075
      omega
  have hclose : (Binary.ofFloat x).closeBelow = true ↔
      (Binary.ofFloat x).mantissa = 2 ^ 52 ∧ -1074 < (Binary.ofFloat x).exponent := by
    rw [ofFloat_eq]
    split
    · simp
    · next hfield =>
      show decide _ = true ↔ 2 ^ 52 + (unpackMantissa (bitsOf x)).toNat = 2 ^ 52 ∧
        -1074 < ((unpackExponent (bitsOf x)).toNat : Int) - 1075
      rw [decide_eq_true_iff]
      omega
  generalize Binary.ofFloat x = b at hfields hclose
  -- Only a zero has no bit in its mantissa.
  by_cases hzero : b.mantissa = 0
  · refine .inl ⟨_, unpack_eq_zero (b := bitsOf x) ?_ ?_⟩ <;> rcases hfields with h | h <;> omega
  · have hmagnitude : IsMagnitude b := {
      canonical := by constructor <;> rcases hfields with h | h <;> omega
      exponent_le := by rcases hfields with h | h <;> omega
      closeBelow := hclose }
    exact .inr ⟨hmagnitude, unpack_eq_finite hmagnitude.canonical.pos hfields⟩

end Parts

/-! ### The range of the format -/

section Range

/-- The parts of a finite float are bounded by the widths of its two fields. Only the bounds are
needed for a quotient, so the float need not be canonical here. -/
theorem bounds_of_unpack {b : BitVec Format.binary64.numBits} {s : Sign} {m : Nat} {e : Int}
    {hm : 0 < m} (h : UnpackedFloat.unpack .binary64 b = .finite s m e hm) :
    m < 2 ^ 53 ∧ e ≤ 971 := by
  have hfield : (unpackExponent b).toNat < 2047 := (isFinite_unpack_iff b).mp (by rw [h]; rfl)
  have hmantissa : (unpackMantissa b).toNat < 2 ^ 52 := (unpackMantissa b).isLt
  have hleading : (1#1 ++ unpackMantissa b).toNat < 2 ^ 53 := (1#1 ++ unpackMantissa b).isLt
  have hbias : (Format.binary64.exponentBias : Int) + Format.binary64.mantissaBitsWithoutImplicit
      = 1075 := rfl
  unfold UnpackedFloat.unpack at h
  simp only [hbias] at h
  -- Of the two kinds of finite floats a subnormal one has the least exponent, and a normal one a
  -- leading bit.
  split at h
  · split at h <;> cases h
  · split at h
    · next hnone =>
      have hnone : (unpackExponent b).toNat = 0 := by
        rw [hnone]
        rfl
      split at h
      · cases h
      · cases h
        exact ⟨Nat.lt_trans hmantissa (by decide), by omega⟩
    · cases h
      exact ⟨hleading, by omega⟩

/-- What is packed is an infinity if its exponent is above that of the greatest floats, and has a
field of a finite float otherwise. Its mantissa makes no difference. -/
theorem pack_finite_cases (s : Sign) {m : Nat} {e : Int} (hm : 0 < m) :
    (971 < e ∧ UnpackedFloat.pack .binary64 (.finite s m e hm) = packedInfinity .binary64 s) ∨
      (unpackExponent (UnpackedFloat.pack .binary64 (.finite s m e hm))).toNat < 2047 := by
  have hbiased : (e + (Format.binary64.exponentBias : Nat)
      + (Format.binary64.mantissaBitsWithoutImplicit : Nat)).toNat = (e + 1075).toNat := by
    show (e + 1023 + 52).toNat = _
    omega
  simp only [UnpackedFloat.pack, hbiased]
  -- Beyond the greatest exponent a float is packed as infinite; any other keeps its exponent, or
  -- has none.
  split
  · next hover =>
    have hover : 2 ^ 11 ≤ (e + 1075).toNat + 1 := hover
    exact .inl ⟨by omega, rfl⟩
  · next hover =>
    have hover : ¬2 ^ 11 ≤ (e + 1075).toNat + 1 := hover
    refine .inr ?_
    split
    · rw [unpackExponent_packComponents]
      show (e + 1075).toNat % 2 ^ 11 < 2047
      omega
    · rw [unpackExponent_packComponents]
      decide

/-- Parts that are within the range of the format: a zero, or an exponent not above that of the
greatest floats. -/
def InRange : UnpackedFloat → Prop
  | .zero _ => True
  | .finite _ _ e _ => e ≤ 971
  | .infinity _ | .notANumber => False

/-- Parts that are within the range are those of a finite float. Feeds every operation whose result
cannot overflow: the opposite, the quotient, and the float of a whole number. -/
theorem isFinite_of_inRange {u : UnpackedFloat} (h : InRange u) :
    (UnpackedFloat.unpack .binary64 (UnpackedFloat.pack .binary64 u)).isFinite = true := by
  cases u with
  | notANumber | infinity s => exact h.elim
  | zero s => cases s <;> rfl
  | finite s m e hm =>
    rcases pack_finite_cases s hm with ⟨hover, -⟩ | hfield
    · exact absurd h (Int.not_le.mpr hover)
    · exact (isFinite_unpack_iff _).mpr hfield

/-- Parts of a number that are not packed as an infinity are packed as a finite float. This is for
the product, which may overflow and is tested for it. -/
theorem isFinite_of_not_isInf {u : UnpackedFloat} (h : u.isFinite = true)
    (hinf : (UnpackedFloat.unpack .binary64 (UnpackedFloat.pack .binary64 u)).isInf = false) :
    (UnpackedFloat.unpack .binary64 (UnpackedFloat.pack .binary64 u)).isFinite = true := by
  cases u with
  | notANumber | infinity s => cases h
  | zero s => cases s <;> rfl
  | finite s m e hm =>
    rcases pack_finite_cases s hm with ⟨-, hpack⟩ | hfield
    · rw [hpack] at hinf
      cases s <;> cases hinf
    · exact (isFinite_unpack_iff _).mpr hfield

/-- A finite float is finite with the other sign. A number with a minus sign is read without it
first, so this carries its finiteness over. -/
theorem isFinite_neg {x : Float} (h : x.isFinite = true) : (-x).isFinite = true := by
  have h : x.toModel.unpack.isFinite = true := h
  show (UnpackedFloat.unpack .binary64
    (UnpackedFloat.pack .binary64 x.toModel.unpack.neg)).isFinite = true
  refine isFinite_of_inRange ?_
  cases hx : x.toModel.unpack with
  | notANumber | infinity s => rw [hx] at h; cases h
  | zero s => trivial
  | finite s m e hm => exact (bounds_of_unpack hx).2

/-- Rounding adds one to a mantissa at most, so a mantissa below the greatest stays within one more
bit. -/
theorem roundedMantissa_le (em : ExtendedMantissa) : em.roundedMantissa ≤ em.mantissa + 1 := by
  obtain ⟨n, roundBit, stickyBit⟩ := em
  cases roundBit with
  | false => cases stickyBit <;> exact Nat.le_succ n
  | true =>
    cases stickyBit with
    | false =>
      show n + n % 2 ≤ n + 1
      omega
    | true => exact Nat.le_refl (n + 1)

/-- What is rounded is a number: rounding makes a zero or a mantissa with an exponent, and leaves it
to `pack` to find that the exponent is too great. -/
theorem isFinite_roundWithAccuracy (s : Sign) (n : Nat) (f : Int) (accuracy : Accuracy) :
    (roundWithAccuracy .binary64 s n f accuracy).isFinite = true := by
  unfold roundWithAccuracy
  dsimp only
  split <;> rfl

/-- The bits of a number below a power of two. Zero has one bit here, as it has in the exponent of
core. -/
theorem log2_succ_le {n k : Nat} (h : n < 2 ^ k) : n.log2 + 1 ≤ max k 1 := by
  rcases Nat.eq_zero_or_pos n with rfl | hpos
  · exact Nat.le_max_right k 1
  · have hlt : n.log2 < k := (Nat.log2_lt (Nat.pos_iff_ne_zero.mp hpos)).mpr h
    omega

/-- A number that is less than half of the first power of two beyond all floats is in range when it
has been rounded. It is cut to the bits of the format, and rounding adds one place at most. -/
theorem inRange_roundWithAccuracy (s : Sign) {n : Nat} {f : Int} (accuracy : Accuracy) (hf : f ≤ 970)
    (htotal : totalExponent n f ≤ 1023) : InRange (roundWithAccuracy .binary64 s n f accuracy) := by
  obtain ⟨k, hk⟩ : ∃ k, (Format.binary64.targetExponent (totalExponent n f) - f).toNat = k := ⟨_, rfl⟩
  have htarget : Format.binary64.targetExponent (totalExponent n f)
      = max (totalExponent n f - 53) (-1074) := rfl
  -- After the first shift there are fifty-three bits, and rounding up adds at most one to them.
  have hcut : (ExtendedMantissa.ofMantissaAndAccuracy n accuracy >>> k).roundedMantissa < 2 ^ 54 := by
    refine Nat.lt_of_le_of_lt (roundedMantissa_le _) ?_
    rw [mantissa_shiftRight, mantissa_ofMantissaAndAccuracy]
    have hbits : n < 2 ^ 53 * 2 ^ k := by
      rw [← Nat.pow_add]
      refine Nat.lt_of_lt_of_le Nat.lt_log2_self (Nat.pow_le_pow_right (by decide) ?_)
      rw [totalExponent] at htarget hk
      omega
    have hless := (Nat.div_lt_iff_lt_mul (Nat.two_pow_pos k)).mpr hbits
    omega
  have hlog := log2_succ_le hcut
  unfold roundWithAccuracy
  simp only [shiftToTargetExponent, shiftToExponent, hk]
  -- The second shift looks at that mantissa again.
  have hagain : ∀ m : Nat, Format.binary64.targetExponent (totalExponent m (f + k))
      = max ((m.log2 : Int) + 1 + (f + k) - 53) (-1074) := fun _ => rfl
  split
  · trivial
  · show f + k + _ ≤ (971 : Int)
    rw [hagain]
    omega

/-- A quotient is in range if its divisor is two or more, since the dividend is below the first
power of two beyond all floats. Feeds `isFinite_div`. -/
theorem inRange_div {m₁ m₂ : Nat} {e₁ e₂ : Int} (s₁ s₂ : Sign) (h₁ : 0 < m₁) (h₂ : 0 < m₂)
    (hdividend : totalExponent m₁ e₁ ≤ 1024) (hdivisor : 2 ≤ totalExponent m₂ e₂) :
    InRange (UnpackedFloat.div .binary64 (.finite s₁ m₁ e₁ h₁) (.finite s₂ m₂ e₂ h₂)) := by
  obtain ⟨t, ht⟩ : ∃ t, min (e₁ - e₂) (Format.binary64.targetExponent
      (totalExponent m₁ e₁ - totalExponent m₂ e₂)) = t := ⟨_, rfl⟩
  have hle : t ≤ e₁ - e₂ := ht ▸ min_le_left _ _
  have htarget : t ≤ max (totalExponent m₁ e₁ - totalExponent m₂ e₂ - 53) (-1074) :=
    ht ▸ min_le_right _ _
  obtain ⟨k, hk⟩ : ∃ k : Nat, (k : Int) = e₁ - e₂ - t := ⟨(e₁ - e₂ - t).toNat, by omega⟩
  simp only [UnpackedFloat.div, divCore, ht, ← hk, Int.toNat_natCast]
  refine inRange_roundWithAccuracy _ _ (by omega) ?_
  -- The quotient has as many bits as the dividend has more than the divisor, and one more.
  have hquotient : m₁ <<< k / m₂ < 2 ^ (m₁.log2 + 1 + k - m₂.log2) := by
    rw [Nat.div_lt_iff_lt_mul h₂, Nat.shiftLeft_eq]
    calc m₁ * 2 ^ k < 2 ^ (m₁.log2 + 1) * 2 ^ k :=
          Nat.mul_lt_mul_of_pos_right Nat.lt_log2_self (Nat.two_pow_pos k)
      _ ≤ 2 ^ (m₁.log2 + 1 + k - m₂.log2) * 2 ^ m₂.log2 := by
          rw [← Nat.pow_add, ← Nat.pow_add]
          exact Nat.pow_le_pow_right (by decide) (by omega)
      _ ≤ 2 ^ (m₁.log2 + 1 + k - m₂.log2) * m₂ :=
          Nat.mul_le_mul_left _ (Nat.log2_self_le (Nat.pos_iff_ne_zero.mp h₂))
  have hlog := log2_succ_le hquotient
  simp only [totalExponent] at *
  omega

/-- The product of two numbers is a number, before it is packed. That it may still be too great for
the format is decided in packing, where the reader tests for it. -/
theorem isFinite_mul {u v : UnpackedFloat} (hu : u.isFinite = true) (hv : v.isFinite = true) :
    (UnpackedFloat.mul .binary64 u v).isFinite = true := by
  cases u with
  | notANumber | infinity s => cases hu
  | zero s =>
    cases v with
    | notANumber | infinity s => cases hv
    | zero _ | finite _ _ _ _ => rfl
  | finite s m e hm =>
    cases v with
    | notANumber | infinity s => cases hv
    | zero _ => rfl
    | finite _ _ _ _ => exact isFinite_roundWithAccuracy _ _ _ _

end Range

end EchoBench.Proofs.Decimal
