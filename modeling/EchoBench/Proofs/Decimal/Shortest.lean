import EchoBench.Proofs.Decimal.Packing

/-!
# `EchoBench.Proofs.Decimal.Shortest`: the shortest decimal names its float

`names_shortest`: a finite float is the one that its shortest decimal is nearest to. A point of a
grid is only taken if it rounds to the float, and this test is the rule of the format in quarters of
the last place (`names_of_roundsTo`). What is left to prove is that some grid is hit. On a grid that
is not coarser than a quarter of the last place even the point below the float rounds to it
(`roundsTo_below`), and the last of the grids is that fine for every float, since its exponent is
bounded.

That the decimal names the float does not make a reader find it: that depends on the arithmetic of
the reader. `EchoBench.Proofs.Json.readsBack_of_isShort` is about the decimals for which it does.
-/

set_option autoImplicit false

namespace EchoBench.Proofs.Decimal

open EchoBench.Decimal (Binary)

/-! ### Grids -/

section Grids

variable {b : Binary} {k : Int} {c : Nat}

/-- The two factors stand for the grid and a quarter of the last place of the binary number. -/
theorem scales_eq (b : Binary) (k : Int) :
    0 < (b.scales k).1 ∧ 0 < (b.scales k).2 ∧
      ((b.scales k).1 : ℚ) / (b.scales k).2 = 10 ^ k / 2 ^ (b.exponent - 2) := by
  refine ⟨?_, ?_, ?_⟩
  · show 0 < 10 ^ k.toNat * 2 ^ (-(b.exponent - 2)).toNat
    positivity
  · show 0 < 2 ^ (b.exponent - 2).toNat * 10 ^ (-k).toNat
    positivity
  · show ((10 ^ k.toNat * 2 ^ (-(b.exponent - 2)).toNat : Nat) : ℚ)
      / (2 ^ (b.exponent - 2).toNat * 10 ^ (-k).toNat : Nat) = _
    rw [zpow_eq_div (by norm_num) k, zpow_eq_div two_ne_zero (b.exponent - 2)]
    push_cast
    field_simp

/-- A point of a grid against a number of quarters of the last place. -/
theorem compare_scales (b : Binary) (k : Int) (c n : Nat) :
    (n * (b.scales k).2 ≤ c * (b.scales k).1 ↔ (n : ℚ) ≤ 4 * (c * 10 ^ k / 2 ^ b.exponent)) ∧
      (c * (b.scales k).1 ≤ n * (b.scales k).2 ↔ 4 * (c * 10 ^ k / 2 ^ b.exponent) ≤ (n : ℚ)) := by
  obtain ⟨-, hquarter, hratio⟩ := scales_eq b k
  have hpos : (0 : ℚ) < (b.scales k).2 := by exact_mod_cast hquarter
  have hvalue : 4 * (c * 10 ^ k / 2 ^ b.exponent) = (c * (b.scales k).1 : ℚ) / (b.scales k).2 := by
    rw [mul_div_assoc (c : ℚ) (b.scales k).1, hratio, zpow_sub₀ two_ne_zero]
    field_simp
    norm_num
    ring
  rw [hvalue, le_div_iff₀ hpos, div_le_iff₀ hpos]
  exact ⟨by exact_mod_cast Iff.rfl, by exact_mod_cast Iff.rfl⟩

/-- The test on a point of a grid, with the two factors that stand for the grid and for a quarter of
the last place. An even mantissa takes the ends of its interval, an odd one does not. -/
theorem roundsTo_iff (b : Binary) (k : Int) (c : Nat) :
    b.roundsTo k c = true ↔
      if b.mantissa % 2 = 0 then
        (4 * b.mantissa - if b.closeBelow then 1 else 2) * (b.scales k).2 ≤ c * (b.scales k).1 ∧
          c * (b.scales k).1 ≤ (4 * b.mantissa + 2) * (b.scales k).2
      else
        (4 * b.mantissa - if b.closeBelow then 1 else 2) * (b.scales k).2 < c * (b.scales k).1 ∧
          c * (b.scales k).1 < (4 * b.mantissa + 2) * (b.scales k).2 := by
  show (if b.mantissa % 2 = 0 then decide _ && decide _ else decide _ && decide _) = true ↔ _
  split <;> rw [Bool.and_eq_true, decide_eq_true_eq, decide_eq_true_eq] <;> exact Iff.rfl

/-- A point of a grid that rounds to the binary number is a number that it is nearest to. -/
theorem names_of_roundsTo (hb : IsMagnitude b) (h : b.roundsTo k c = true) :
    Names (c * 10 ^ k) b.mantissa b.exponent := by
  have hpos := hb.canonical.pos
  have hcompare := compare_scales b k c
  rw [roundsTo_iff] at h
  unfold Names
  generalize (b.scales k).1 = unit, (b.scales k).2 = quarter at h hcompare
  generalize (c * 10 ^ k / 2 ^ b.exponent : ℚ) = w at hcompare ⊢
  split at h
  · next heven =>
    rw [(hcompare _).1, (hcompare _).2] at h
    obtain ⟨hlow, hhigh⟩ := h
    push_cast at hhigh
    cases hclose : b.closeBelow with
    | true =>
      -- A quarter of a place below, and half a place above.
      have hpower := hb.closeBelow.mp hclose
      rw [hclose, if_pos rfl, hpower.1] at hlow
      rw [hpower.1] at hhigh
      rw [if_pos hpower]
      norm_num at hlow hhigh ⊢
      constructor <;> linarith
    | false =>
      have hpower : ¬(b.mantissa = 2 ^ 52 ∧ -1074 < b.exponent) := by
        rw [← hb.closeBelow, hclose]
        exact Bool.false_ne_true
      rw [hclose, if_neg Bool.false_ne_true, Nat.cast_sub (by omega)] at hlow
      push_cast at hlow
      rw [if_neg hpower]
      exact .inr ⟨heven, by linarith, by linarith⟩
  · next hodd =>
    -- Half a place below a power of two is not left out, since its mantissa is even.
    have hpower : ¬(b.mantissa = 2 ^ 52 ∧ -1074 < b.exponent) := by
      rintro ⟨hm, -⟩
      rw [hm] at hodd
      exact hodd rfl
    have hclose : ¬b.closeBelow = true := fun h => hpower (hb.closeBelow.mp h)
    rw [← not_le, ← not_le, (hcompare _).1, (hcompare _).2, if_neg hclose, not_le, not_le,
      Nat.cast_sub (by omega)] at h
    push_cast at h
    rw [if_neg hpower]
    exact .inl ⟨by linarith [h.1], by linarith [h.2]⟩

/-- On a grid that is not coarser than a quarter of the last place, the point below the binary
number rounds to it. -/
theorem roundsTo_below (hb : IsMagnitude b) (hfine : (10 : ℚ) ^ k ≤ 2 ^ (b.exponent - 2)) :
    b.roundsTo k (4 * b.mantissa * (b.scales k).2 / (b.scales k).1) = true := by
  obtain ⟨hunit, hquarter, hratio⟩ := scales_eq b k
  have hle : (b.scales k).1 ≤ (b.scales k).2 := by
    have hone : ((b.scales k).1 : ℚ) / (b.scales k).2 ≤ 1 := by
      rw [hratio]
      exact (div_le_one (by positivity)).mpr hfine
    exact_mod_cast (div_le_one (by exact_mod_cast hquarter)).mp hone
  have hbelow := Nat.div_mul_le_self (4 * b.mantissa * (b.scales k).2) (b.scales k).1
  have habove := Nat.lt_div_mul_add (a := 4 * b.mantissa * (b.scales k).2) hunit
  have hpos := hb.canonical.pos
  have hmany : (b.scales k).2 ≤ 4 * b.mantissa * (b.scales k).2 :=
    Nat.le_mul_of_pos_left _ (by omega)
  rw [roundsTo_iff]
  generalize (b.scales k).1 = unit, (b.scales k).2 = quarter at *
  generalize 4 * b.mantissa * quarter / unit * unit = point at *
  -- The point is less than a quarter of a place below.
  have hlow : (4 * b.mantissa - if b.closeBelow then 1 else 2) * quarter < point := by
    calc (4 * b.mantissa - if b.closeBelow then 1 else 2) * quarter
        ≤ (4 * b.mantissa - 1) * quarter := Nat.mul_le_mul_right _ (by split <;> omega)
      _ = 4 * b.mantissa * quarter - quarter := by rw [Nat.sub_mul, Nat.one_mul]
      _ < point := by omega
  have hhigh : point < (4 * b.mantissa + 2) * quarter := by
    calc point ≤ 4 * b.mantissa * quarter := hbelow
      _ < (4 * b.mantissa + 2) * quarter := Nat.mul_lt_mul_of_pos_right (by omega) hquarter
  split
  · exact ⟨hlow.le, hhigh.le⟩
  · exact ⟨hlow, hhigh⟩

/-- A grid has a point that rounds to the binary number, or not even the one below does. -/
theorem onGrid?_cases (b : Binary) (k : Int) :
    (∃ c, b.onGrid? k = some c ∧ b.roundsTo k c = true) ∨
      (b.onGrid? k = none ∧
        b.roundsTo k (4 * b.mantissa * (b.scales k).2 / (b.scales k).1) = false) := by
  unfold Binary.onGrid?
  dsimp only
  split
  · next hbelow _ => exact .inr ⟨rfl, hbelow⟩
  · next hbelow _ => exact .inl ⟨_, rfl, hbelow⟩
  · next habove => exact .inl ⟨_, rfl, habove⟩
  · next hbelow habove =>
    split
    · exact .inl ⟨_, rfl, hbelow⟩
    · exact .inl ⟨_, rfl, habove⟩

/-- If one of the grids has a point that rounds to the binary number, then one is found. -/
theorem firstHit_eq_some (grids : Nat) (h : ∃ i < grids, b.onGrid? (k - i) ≠ none) :
    ∃ s, b.firstHit grids k = some s ∧ b.roundsTo s.exponent s.digits = true := by
  -- Each miss leaves a grid less, and the hit is a grid nearer.
  induction grids generalizing k with
  | zero =>
    obtain ⟨i, hi, -⟩ := h
    exact absurd hi (Nat.not_lt_zero i)
  | succ grids ih =>
    rw [Binary.firstHit]
    rcases onGrid?_cases b k with ⟨c, hc, hround⟩ | ⟨hnone, -⟩
    · rw [hc]
      exact ⟨⟨c, k⟩, rfl, hround⟩
    · rw [hnone]
      refine ih ?_
      obtain ⟨i, hi, hhit⟩ := h
      cases i with
      | zero =>
        rw [Nat.cast_zero, sub_zero] at hhit
        exact absurd hnone hhit
      | succ i =>
        refine ⟨i, by omega, ?_⟩
        rwa [show k - 1 - (i : Int) = k - (i + 1 : Nat) by push_cast; ring]

/-- Of two powers with a negative exponent the one with the greater base is the smaller. -/
theorem zpow_le_zpow_of_nonpos {a b : ℚ} (ha : 0 < a) (hab : a ≤ b) {k : Int} (hk : k ≤ 0) :
    b ^ k ≤ a ^ k := by
  have hinv := inv_anti₀ (by positivity) (zpow_le_zpow_left₀ (neg_nonneg.mpr hk) ha.le hab)
  rwa [← zpow_neg, ← zpow_neg, neg_neg] at hinv

/-- A power of ten against a power of two, by 10³ ≤ 2¹⁰ and 2³³ ≤ 10¹⁰. -/
theorem ten_zpow_le {t : Int} (hup : 10 * k ≤ 3 * t) (hdown : 33 * k ≤ 10 * t) :
    (10 : ℚ) ^ k ≤ 2 ^ t := by
  rcases le_or_gt 0 k with hk | hk
  · refine (pow_le_pow_iff_left₀ (by positivity) (by positivity) three_ne_zero).mp ?_
    calc ((10 : ℚ) ^ k) ^ 3 = (10 ^ 3) ^ k := by rw [← zpow_natCast, ← zpow_natCast, zpow_comm]
      _ ≤ (2 ^ 10) ^ k := zpow_le_zpow_left₀ hk (by norm_num) (by norm_num)
      _ = 2 ^ (10 * k) := by rw [zpow_mul]; rfl
      _ ≤ 2 ^ (3 * t) := zpow_le_zpow_right₀ one_le_two hup
      _ = (2 ^ t) ^ 3 := by rw [mul_comm, zpow_mul]; rfl
  · refine (pow_le_pow_iff_left₀ (by positivity) (by positivity) (show 10 ≠ 0 by decide)).mp ?_
    calc ((10 : ℚ) ^ k) ^ 10 = (10 ^ 10) ^ k := by rw [← zpow_natCast, ← zpow_natCast, zpow_comm]
      _ ≤ (2 ^ 33) ^ k := zpow_le_zpow_of_nonpos (by norm_num) (by norm_num) hk.le
      _ = 2 ^ (33 * k) := by rw [zpow_mul]; rfl
      _ ≤ 2 ^ (10 * t) := zpow_le_zpow_right₀ one_le_two hdown
      _ = (2 ^ t) ^ 10 := by rw [mul_comm, zpow_mul]; rfl

/-- The decimal with the fewest digits is one that the binary number is nearest to. -/
theorem names_shortest (hb : IsMagnitude b) :
    Names (b.shortest.digits * 10 ^ b.shortest.exponent) b.mantissa b.exponent := by
  have hlog := hb.canonical.log2_lt
  have hmin := hb.canonical.le
  have hmax := hb.exponent_le
  -- The last of the grids is fine enough.
  have hfine : (10 : ℚ) ^ (b.coarsest - (23 : Nat)) ≤ 2 ^ (b.exponent - 2) := by
    refine ten_zpow_le ?_ ?_ <;> rw [Binary.coarsest] <;> omega
  have hlast : b.onGrid? (b.coarsest - (23 : Nat)) ≠ none := by
    rcases onGrid?_cases b (b.coarsest - (23 : Nat)) with ⟨c, hc, -⟩ | ⟨-, hmiss⟩
    · rw [hc]
      exact Option.some_ne_none c
    · rw [roundsTo_below hb hfine] at hmiss
      cases hmiss
  obtain ⟨s, hs, hround⟩ := firstHit_eq_some 24 ⟨23, by decide, hlast⟩
  have hshortest : b.shortest = s := by rw [Binary.shortest, hs, Option.getD_some]
  rw [hshortest]
  exact names_of_roundsTo hb hround

end Grids

end EchoBench.Proofs.Decimal
