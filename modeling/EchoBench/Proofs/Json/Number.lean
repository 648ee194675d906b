import EchoBench.Json.Value
import EchoBench.Proofs.Decimal.Scaled
import EchoBench.Proofs.Decimal.Shortest
import EchoBench.Proofs.Json.NumberText

/-!
# `EchoBench.Proofs.Json.Number`: what is read where a float was written

A float is written with the fewest digits that name it, and the reader makes a float of these digits
in two steps that both round. So what is read need not be what was written, and there are finite
floats for which it is not. `ReadsBack` says of a float that it is; it is the assumption under which
records are read back from their lines.

Two things are proved about it. What follows the text makes no difference, if it does not go on with
the number (`ReadsBack.append`): the text of a magnitude is a proper number text (`magnitudeText`),
so the reader takes all of it and nothing else, and asks for its value afterwards. And a float whose
shortest decimal is short reads back (`readsBack_of_isShort`): that decimal names the float by
`EchoBench.Proofs.Decimal.names_shortest`, and the arithmetic of floats finds the float that such a
decimal names by `EchoBench.Proofs.Decimal.scaled?_eq_some`. Both zeros read back as well; they are
told apart, since the sign is written for itself.
-/

set_option autoImplicit false

namespace EchoBench.Proofs.Json

open Float.Model
open Float.Model.UnpackedFloat
open EchoBench.Json
open EchoBench.Text
open EchoBench.Decimal (Binary shortest)
open EchoBench.Proofs.Decimal

/-! ### Signs -/

section Signs

/-- The sign is the highest of the sixty-four bits. Taking a part out of a word is division by a
power of two, which is how the writer tells the sign. -/
theorem toNat_unpackSign (b : BitVec Format.binary64.numBits) :
    (unpackSign b).toNat = b.toNat / 2 ^ 63 % 2 := by
  show (BitVec.cast _ (b.extractLsb 63 63)).toNat = _
  rw [BitVec.toNat_cast, BitVec.extractLsb_toNat, Nat.shiftRight_eq_div_pow]

/-- The sign of a float is its highest bit, so the arithmetic of floats and the writer agree on it,
for both zeros as well. -/
theorem ofBitVec_unpackSign (x : Float) : Sign.ofBitVec (unpackSign (bitsOf x))
    = if signBit ≤ x.toBits.toNat then .negative else .positive := by
  have hsign : (unpackSign (bitsOf x)).toNat = x.toBits.toNat / signBit % 2 :=
    toNat_unpackSign (bitsOf x)
  have hlt : x.toBits.toNat < 2 * signBit := x.toBits.toNat_lt
  split
  · next hge =>
    have hdiv : x.toBits.toNat / signBit = 1 :=
      Nat.div_eq_of_lt_le (by omega) hlt
    have hone : unpackSign (bitsOf x) = 1#1 := BitVec.eq_of_toNat_eq (by rw [hsign, hdiv]; rfl)
    rw [hone]
    rfl
  · next hless =>
    have hdiv : x.toBits.toNat / signBit = 0 := Nat.div_eq_of_lt (by omega)
    have hzero : unpackSign (bitsOf x) = 0#1 := BitVec.eq_of_toNat_eq (by rw [hsign, hdiv]; rfl)
    rw [hzero]
    rfl

/-- The parts of a float that is not negative are those of its opposite, up to the sign. -/
theorem unpack_neg_finite {x : Float} {m : Nat} {e : Int} (hc : Canonical m e) (he : e ≤ 971)
    (hx : x.toModel.unpack = .finite .positive m e hc.pos) :
    (-x).toModel.unpack = .finite .negative m e hc.pos := by
  show UnpackedFloat.unpack .binary64 (UnpackedFloat.pack .binary64 x.toModel.unpack.neg) = _
  rw [hx]
  exact unpack_pack .negative hc he

end Signs

/-! ### The text of a float -/

/-- The number text of the magnitude of a float, taken apart as the reader takes it apart. Its
characters are what is written, and its value is what is read. -/
def magnitudeText (x : Float) : NumberText :=
  if x == 0.0 then ⟨['0'], some ['0'], none⟩
  else written (decimal (shortest x).digits)
    ((decimal (shortest x).digits).length + (shortest x).exponent)

section Texts

variable {x : Float}

/-- The number text of a magnitude is the one that is written. The definitions go by the same cases,
of which `characters_written` is the second. -/
theorem characters_magnitudeText (x : Float) : characters (magnitudeText x) = writeMagnitude x := by
  unfold magnitudeText writeMagnitude
  split
  · rfl
  · exact characters_written

/-- The text of a float never has digits only, so it is never read as a whole number. Of all the
cases of `written` only the last has no point, and that one has an exponent. -/
theorem isPlain_magnitudeText (x : Float) : (magnitudeText x).isPlain = false := by
  unfold magnitudeText written
  split
  · rfl
  · split
    · split
      · rfl
      · split <;> rfl
    · exact Bool.and_false _

/-- The float of a number text that has more than digits is that of its decimal, with its sign. -/
theorem value?_of_not_isPlain {t : NumberText} (h : t.isPlain = false) (negative : Bool) :
    t.value? negative = t.magnitude?.map fun x => .float (if negative then -x else x) := by
  unfold NumberText.value?
  rw [h]
  rfl

/-- The digits of the shortest decimal of a float that is not zero. -/
theorem digits_pos (h : IsMagnitude (.ofFloat x)) : 0 < (shortest x).digits := by
  have hnames := (names_shortest h).le h.canonical
  by_contra hzero
  have hnone : (Binary.ofFloat x).shortest.digits = 0 := Nat.eq_zero_of_not_pos hzero
  rw [hnone, Nat.cast_zero, zero_mul] at hnames
  exact absurd hnames (not_le.mpr (by positivity))

/-- The text of a float is a proper number text: its digits do not begin with a superfluous zero,
and point and exponent have digits behind them. So the grammar takes it, whatever its value is. -/
theorem wellFormed_magnitudeText (hfinite : x.isFinite = true) : WellFormed (magnitudeText x) := by
  unfold magnitudeText
  split
  · exact {
      whole := isRun_decimal 0
      no_zero := fun t ht => (List.cons.inj ht).2.symm
      fraction := by
        rintro ds ⟨⟩
        exact isRun_decimal 0
      exponent := nofun }
  · next hne =>
    rcases unpack_eq_zero_or_ofFloat hfinite with hzero | ⟨h, -⟩
    · exact absurd (beq_zero_iff.mpr hzero) hne
    · exact wellFormed_written (isRun_decimal _) (head?_decimal_ne (digits_pos h))

/-- If the text of a float that is not zero is short, the value of the text is the magnitude of the
float. Zeros at the end of its digits are made up for by its exponent. -/
theorem magnitude?_magnitudeText (hne : (x == 0.0) = false) (h : IsMagnitude (.ofFloat x))
    (hshort : IsShort (magnitudeText x)) :
    ∃ y, (magnitudeText x).magnitude? = some y ∧ y.toModel.unpack = .finite .positive
      (Binary.ofFloat x).mantissa (Binary.ofFloat x).exponent h.canonical.pos := by
  obtain ⟨zeros, hdecimal⟩ := decimalValue_written (isRun_decimal (shortest x).digits).1
    ((decimal (shortest x).digits).length + (shortest x).exponent)
  rw [digitsValue_decimal] at hdecimal
  -- The point may stand behind zeros that the shortest decimal does not have.
  have hwritten : decimalValue (magnitudeText x) = ((shortest x).digits * 10 ^ zeros,
      (decimal (shortest x).digits).length + (shortest x).exponent
        - (decimal (shortest x).digits).length - zeros) := by
    rw [magnitudeText, if_neg (Bool.eq_false_iff.mp hne), hdecimal]
  have hnames := names_shortest h
  have hvalue : ((shortest x).digits * 10 ^ (shortest x).exponent : ℚ)
      = (decimalValue (magnitudeText x)).1 * 10 ^ (decimalValue (magnitudeText x)).2 := by
    rw [hwritten]
    push_cast
    rw [mul_assoc, ← zpow_natCast, ← zpow_add₀ (by norm_num)]
    congr 2
    omega
  have hpos : 0 < (decimalValue (magnitudeText x)).1 := by
    rw [hwritten]
    exact Nat.mul_pos (digits_pos h) (by positivity)
  obtain ⟨y, hy, hparts⟩ := scaled?_eq_some hpos hshort.digits hshort.places h.canonical
    h.exponent_le (hvalue ▸ hnames)
  exact ⟨y, (magnitude?_of_isShort hshort).trans hy, hparts⟩

/-- A finite float is the value of its text and its sign, if its text is short. -/
theorem value?_magnitudeText (hfinite : x.isFinite = true) (hshort : IsShort (magnitudeText x)) :
    (magnitudeText x).value? (decide (signBit ≤ x.toBits.toNat)) = some (.float x) := by
  -- A zero has no decimal that names it, so the two are computed.
  rcases unpack_eq_zero_or_ofFloat hfinite with ⟨s, hs⟩ | ⟨h, hparts⟩
  · cases s with
    | positive =>
      obtain rfl : x = 0.0 := eq_of_unpack_eq (hs.trans unpack_zero.symm)
      decide +kernel
    | negative =>
      obtain rfl : x = -0.0 := eq_of_unpack_eq (hs.trans unpack_negZero.symm)
      decide +kernel
  · have hne : (x == 0.0) = false := by
      apply Bool.eq_false_iff.mpr
      intro heq
      obtain ⟨s, hs⟩ := beq_zero_iff.mp heq
      rw [hparts] at hs
      cases hs
    obtain ⟨y, hy, hyparts⟩ := magnitude?_magnitudeText hne h hshort
    -- The text of a float has a point or an exponent, so it is never read as a whole number.
    rw [value?_of_not_isPlain (isPlain_magnitudeText x), hy, Option.map_some]
    congr 2
    apply eq_of_unpack_eq
    rw [hparts, ofBitVec_unpackSign]
    by_cases hsign : signBit ≤ x.toBits.toNat
    · rw [if_pos (decide_eq_true hsign), if_pos hsign]
      exact unpack_neg_finite h.canonical h.exponent_le hyparts
    · rw [if_neg (by simpa using hsign), if_neg hsign]
      exact hyparts

/-- Digits at the front of a text begin a number without a sign. -/
theorem readAnyNumber_append {digits : List Char} (hdigits : IsRun digits) (expected : Expected)
    (rest : List Char) :
    readAnyNumber expected (digits ++ rest) = readNumber false (digits ++ rest) := by
  obtain ⟨c, digits, rfl⟩ := List.exists_cons_of_ne_nil hdigits.1
  have hdigit : c.isDigit = true := hdigits.2 c List.mem_cons_self
  have hminus : c ≠ '-' := by rintro rfl; cases hdigit
  have hspace : ¬(c = ' ' ∨ c = '\n' ∨ c = '\t' ∨ c = '\r') := by
    rintro (rfl | rfl | rfl | rfl) <;> cases hdigit
  rw [readAnyNumber, List.cons_append, dropSpace, if_neg hspace]
  split
  · next heq => exact absurd (List.cons.inj heq).1 hminus
  · simp [hdigit]

/-- What is read where a finite float was written: the value of its number text with its sign,
whatever follows the text. The sign has been read before the number is, and is given to it. -/
theorem readFloat_writeFloat (hfinite : x.isFinite = true) {rest : List Char}
    (hrest : EndsNumber rest) :
    readFloat (writeFloat x ++ rest)
      = match (magnitudeText x).value? (decide (signBit ≤ x.toBits.toNat)) with
        | some n => .ok (n.toFloat, rest)
        | none => .error .malformed := by
  have hwell := wellFormed_magnitudeText hfinite
  have htext := readNumberText_characters hwell hrest
  have hnumber : readAnyNumber .number (writeFloat x ++ rest)
      = readNumber (decide (signBit ≤ x.toBits.toNat)) (characters (magnitudeText x) ++ rest) := by
    rw [writeFloat, if_pos hfinite, ← characters_magnitudeText]
    split
    · next hsign =>
      rw [decide_eq_true hsign]
      rfl
    · next hsign =>
      rw [decide_eq_false hsign, characters, List.append_assoc, readAnyNumber_append hwell.whole]
  rw [readFloat, hnumber]
  simp only [readNumber, htext, bind, Except.bind]
  cases (magnitudeText x).value? (decide (signBit ≤ x.toBits.toNat)) <;> rfl

/-- A float that is not finite is written as a word that is no number. -/
theorem readFloat_writeFloat_of_not_isFinite (hx : x.isFinite = false) (rest : List Char) :
    readFloat (writeFloat x ++ rest) = .error (.mismatch (.wrongType .null .number)) := by
  rw [writeFloat, hx]
  rfl

end Texts

/-! ### Floats that are read back -/

/-- A float is read back from its text. Not every finite float is: the two roundings of the reader
may miss the one that the text names. -/
def ReadsBack (x : Float) : Prop :=
  readFloat (writeFloat x) = .ok (x, [])

/-- Whether a float is read back can be decided by writing and reading it, so the assumption can be
checked for a given record. -/
instance (x : Float) : Decidable (ReadsBack x) :=
  inferInstanceAs (Decidable (_ = _))

section ReadsBack

variable {x : Float}

/-- A float that is read back is finite, since no other is written as a number. -/
theorem ReadsBack.isFinite (h : ReadsBack x) : x.isFinite = true := by
  by_contra hnot
  have hnull := readFloat_writeFloat_of_not_isFinite (Bool.eq_false_iff.mpr hnot) []
  rw [List.append_nil, h] at hnull
  cases hnull

/-- A float that is read back from its text alone is read back from it wherever it stands. Feeds the
members of a record, whose values are followed by a comma or a bracket. -/
theorem ReadsBack.append (h : ReadsBack x) {rest : List Char} (hrest : EndsNumber rest) :
    readFloat (writeFloat x ++ rest) = .ok (x, rest) := by
  have hends : EndsNumber [] := fun _ hc => absurd hc (by simp)
  have hself := readFloat_writeFloat h.isFinite hends
  rw [List.append_nil, h] at hself
  rw [readFloat_writeFloat h.isFinite hrest]
  cases hvalue : (magnitudeText x).value? (decide (signBit ≤ x.toBits.toNat)) with
  | none =>
    rw [hvalue] at hself
    cases hself
  | some n =>
    rw [hvalue] at hself
    cases hself
    rfl

/-- A finite float is read back if its shortest decimal is short: the decimal names the float, and
with exact digits and an exact power of ten the reader rounds only once. -/
theorem readsBack_of_isShort (hfinite : x.isFinite = true) (hshort : IsShort (magnitudeText x)) :
    ReadsBack x := by
  have hends : EndsNumber [] := fun _ hc => absurd hc (by simp)
  have hread := readFloat_writeFloat hfinite hends
  rw [List.append_nil, value?_magnitudeText hfinite hshort] at hread
  exact hread

-- Seventeen digits are too many for a float, and this one is read as its neighbour below.
example : ¬ReadsBack 21.755141731636378 := by
  decide +kernel

end ReadsBack

end EchoBench.Proofs.Json
