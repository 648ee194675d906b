/-!
# `EchoBench.Decimal.Shortest`: the fewest digits that name a float

A positive finite float is `mantissa * 2 ^ exponent`. The reals that round to it form an interval
whose ends lie halfway to its neighbours, and belong to it exactly when the mantissa is even.
`shortest` looks for a decimal in that interval on ever finer grids `10 ^ k`. On each grid only the
two points around the float can lie in the interval; the first grid with a hit gives the decimal
with the fewest digits, and of two hits the nearer one is taken, the even one if both are equally
near.
-/

set_option autoImplicit false

namespace EchoBench.Decimal

/-- The decimal `digits * 10 ^ exponent`. -/
structure Scientific where
  digits : Nat
  exponent : Int
  deriving DecidableEq, Repr, Inhabited

/-- The positive binary number `mantissa * 2 ^ exponent`. `closeBelow` says that the next smaller
float is half as far away as the next greater one, which is so at a power of two. -/
structure Binary where
  mantissa : Nat
  exponent : Int
  closeBelow : Bool
  deriving DecidableEq, Repr

/-- The number of fractions of a float, which is two to the power of fifty-two. -/
def fractions : Nat :=
  4503599627370496

/-- The magnitude of a float that is neither zero, infinite nor NaN. The field of the exponent has
eleven bits, of which zero marks a float without a leading bit of its own. -/
def Binary.ofFloat (x : Float) : Binary :=
  let bits := x.toBits.toNat
  let field : Nat := bits / fractions % 2048
  let fraction := bits % fractions
  if field = 0 then ⟨fraction, -1074, false⟩
  else ⟨fractions + fraction, (field : Int) - 1075, fraction = 0 ∧ 1 < field⟩

/-- A power of ten or two with a possibly negative exponent, as numerator and denominator. -/
def ratio (base : Nat) (exponent : Int) : Nat × Nat :=
  (base.pow exponent.toNat, base.pow (-exponent).toNat)

namespace Binary

/-- The factors by which a number of grid units, and a number of quarters of the last binary place,
become comparable. -/
def scales (b : Binary) (k : Int) : Nat × Nat :=
  let ten := ratio 10 k
  let two := ratio 2 (b.exponent - 2)
  (ten.1 * two.2, two.1 * ten.2)

/-- Whether `c * 10 ^ k` rounds to the binary number. -/
def roundsTo (b : Binary) (k : Int) (c : Nat) : Bool :=
  let (unit, quarter) := b.scales k
  let low := (4 * b.mantissa - if b.closeBelow then 1 else 2) * quarter
  let high := (4 * b.mantissa + 2) * quarter
  if b.mantissa % 2 = 0 then low ≤ c * unit && c * unit ≤ high
  else low < c * unit && c * unit < high

/-- The point of the grid `10 ^ k` that rounds to the binary number and is nearest to it. -/
def onGrid? (b : Binary) (k : Int) : Option Nat :=
  let (unit, quarter) := b.scales k
  let value := 4 * b.mantissa * quarter
  let below := value / unit
  match b.roundsTo k below, b.roundsTo k (below + 1) with
  | false, false => none
  | true, false => some below
  | false, true => some (below + 1)
  | true, true =>
    let toBelow := value - below * unit
    let toAbove := (below + 1) * unit - value
    if toBelow < toAbove || (toBelow == toAbove && below % 2 == 0) then some below
    else some (below + 1)

/-- The first hit on grids from `10 ^ k` downwards. -/
def firstHit (b : Binary) : Nat → Int → Option Scientific
  | 0, _ => none
  | grids + 1, k =>
    match b.onGrid? k with
    | some c => some ⟨c, k⟩
    | none => b.firstHit grids (k - 1)

/-- A grid so coarse that the binary number is below its first point: its bit length times the
decimal logarithm of two, rounded up. -/
def coarsest (b : Binary) : Int :=
  (b.exponent + (Nat.log2 b.mantissa + 1)) * 30103 / 100000 + 1

/-- The decimal with the fewest digits that rounds to the binary number. Seventeen digits always
suffice, and the coarsest grid is at most three places above the first digit. -/
def shortest (b : Binary) : Scientific :=
  (b.firstHit 24 b.coarsest).getD ⟨b.mantissa, 0⟩

end Binary

/-- The decimal with the fewest digits that rounds to the magnitude of a finite float. -/
def shortest (x : Float) : Scientific :=
  (Binary.ofFloat x).shortest

example :
    shortest 0.1 = ⟨1, -1⟩ ∧ shortest 1e23 = ⟨1, 23⟩ ∧ shortest 5e-324 = ⟨5, -324⟩ ∧
    shortest 9007199254740993 = ⟨9007199254740992, 0⟩ ∧
    shortest 1125899906842624.25 = ⟨11258999068426242, -1⟩ := by
  decide +kernel

end EchoBench.Decimal
