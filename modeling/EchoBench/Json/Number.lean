import EchoBench.Decimal.Shortest
import EchoBench.Json.Fault
import EchoBench.Text.Numeral

/-!
# `EchoBench.Json.Number`: numbers as JSON texts

A float is written with the fewest digits that read back. From 1e-5 up to, but not including, 1e16
it is written positionally with at least one decimal, outside that range with one digit before the
point and a signed exponent. A float that is not finite is written as `null`, which no number
reader accepts.

A number is read as the text that it is first (`NumberText`), and its value is taken afterwards.
Digits alone give a whole number where it fits 64 bits. All else is a float, and its value is taken
in two steps: as many digits as fit 64 bits are made a float (`significand`), and that is multiplied
or divided by a power of ten (`scaled?`). Both steps round, so the float need not be the one that is
nearest to the decimal. A product that is infinite is no value.
-/

set_option autoImplicit false

namespace EchoBench.Json

open EchoBench.Text
open EchoBench.Decimal (shortest)

/-! ## Writing -/

/-- The digits of a decimal with the point after the first `point` of them. -/
def positional (digits : List Char) (point : Int) : List Char :=
  if point ≤ 0 then
    '0' :: '.' :: List.replicate point.natAbs '0' ++ digits
  else if digits.length ≤ point.toNat then
    digits ++ List.replicate (point.toNat - digits.length) '0' ++ ['.', '0']
  else
    digits.take point.toNat ++ '.' :: digits.drop point.toNat

/-- The digits of a decimal with the point after the first of them, and an exponent that always has
a sign. -/
def scientific (digits : List Char) (exponent : Int) : List Char :=
  let fraction := match digits.drop 1 with
    | [] => []
    | rest => '.' :: rest
  digits.take 1 ++ fraction ++
    ['e', if exponent < 0 then '-' else '+'] ++ decimal exponent.natAbs

/-- The text of the magnitude of a finite float. -/
def writeMagnitude (x : Float) : List Char :=
  if x == 0.0 then ['0', '.', '0']
  else
    let short := shortest x
    let digits := decimal short.digits
    let point := digits.length + short.exponent
    if -5 < point ∧ point ≤ 16 then positional digits point else scientific digits (point - 1)

/-- The highest of the sixty-four bits of a float, which negative floats have. -/
def signBit : Nat :=
  9223372036854775808

/-- The text of a float. -/
def writeFloat (x : Float) : List Char :=
  if x.isFinite then
    if signBit ≤ x.toBits.toNat then '-' :: writeMagnitude x else writeMagnitude x
  else ['n', 'u', 'l', 'l']

/-! ## Reading -/

/-- A number as it is written, without a minus sign in front. -/
structure NumberText where
  /-- The digits before the point. -/
  whole : List Char
  /-- The digits after the point, where there is one. -/
  fraction : Option (List Char)
  /-- The digits of the exponent and whether it is negative, where there is one. -/
  exponent : Option (Bool × List Char)
  deriving DecidableEq, Repr

/-- A number that has been read. -/
inductive Number
  /-- A whole number that fits 64 bits. -/
  | whole (value : Int)
  /-- Any other number. -/
  | float (value : Float)
  deriving DecidableEq, Repr

/-- Reads as many digits as there are; at least one has to be there. -/
def readDigitRun (s : List Char) : Except Fault (List Char × List Char) :=
  match s.takeWhile Char.isDigit with
  | [] => .error (if s.isEmpty then .truncated else .malformed)
  | digits => .ok (digits, s.dropWhile Char.isDigit)

/-- Reads the digits before the point. A zero stands alone. -/
def readWhole (s : List Char) : Except Fault (List Char × List Char) := do
  let (digits, rest) ← readDigitRun s
  match digits with
  | '0' :: _ :: _ => .error .malformed
  | _ => .ok (digits, rest)

/-- Reads a point and the digits after it, where there is a point. -/
def readFraction : List Char → Except Fault (Option (List Char) × List Char)
  | '.' :: rest => do
    let (digits, rest) ← readDigitRun rest
    .ok (some digits, rest)
  | s => .ok (none, s)

/-- Reads the sign of an exponent, where there is one. -/
def readSign : List Char → Bool × List Char
  | '-' :: rest => (true, rest)
  | '+' :: rest => (false, rest)
  | s => (false, s)

/-- Reads an exponent, where there is one. -/
def readExponent : List Char → Except Fault (Option (Bool × List Char) × List Char)
  | [] => .ok (none, [])
  | c :: rest =>
    if c = 'e' ∨ c = 'E' then do
      let (negative, rest) := readSign rest
      let (digits, rest) ← readDigitRun rest
      .ok (some (negative, digits), rest)
    else .ok (none, c :: rest)

/-- Reads a number as it is written. -/
def readNumberText (s : List Char) : Except Fault (NumberText × List Char) := do
  let (whole, rest) ← readWhole s
  let (fraction, rest) ← readFraction rest
  let (exponent, rest) ← readExponent rest
  .ok (⟨whole, fraction, exponent⟩, rest)

/-- The value of digits. -/
def digitsValue (s : List Char) : Nat :=
  Nat.ofDigitChars 10 s 0

/-! ## Values -/

/-- Takes digits into a number of 64 bits. The first digit that does not fit ends it for good; the
number comes with the count of the digits that are left, that one included. -/
def significand : Nat → List Char → Nat × Nat
  | n, [] => (n, 0)
  | n, c :: rest =>
    let next := 10 * n + digitValue c
    if next < UInt64.size then significand next rest else (n, rest.length + 1)

/-- A whole number of 64 bits as a float. -/
def ofWhole (n : Nat) : Float :=
  n.toUInt64.toFloat

/-- The number as a float. -/
def Number.toFloat : Number → Float
  | .whole n => if n < 0 then -ofWhole n.natAbs else ofWhole n.natAbs
  | .float x => x

/-- A power of ten as a float. -/
def powerOfTen (k : Nat) : Float :=
  Float.ofScientific 1 false k

/-- The greatest exponent of a power of ten that is a finite float. -/
def greatestPower : Nat :=
  308

/-- Divides by the greatest power of ten so many times, or until nothing is left. -/
def scaleDown : Nat → Float → Float
  | 0, x => x
  | n + 1, x => if x == 0.0 then x else scaleDown n (x / powerOfTen greatestPower)

/-- `digits * 10 ^ exponent` in floats. Beyond the greatest power of ten nothing but zero has a
value; below the least, the division is made in parts. -/
def scaled? (digits : Nat) : Int → Option Float
  | .ofNat k =>
    let x := ofWhole digits
    if k ≤ greatestPower then
      let product := x * powerOfTen k
      if product.isInf then none else some product
    else if x == 0.0 then some x
    else none
  | .negSucc k =>
    let parts := k / greatestPower
    some (scaleDown parts (ofWhole digits) / powerOfTen (k + 1 - greatestPower * parts))

/-- The greatest exponent that is taken as it is written. -/
def greatestExponent : Nat :=
  2147483647

/-- The exponent that is nearest to a number and has 32 bits. -/
def saturated (exponent : Int) : Int :=
  max (-2147483648) (min 2147483647 exponent)

namespace NumberText

/-- The digits that are kept of a number, and the power of ten that they count where no exponent is
written. A digit that is left out in front of the point still counts as a place. -/
def kept (t : NumberText) : Nat × Int :=
  let fraction := t.fraction.getD []
  let (n, cut) := significand 0 t.whole
  let (n, cutBehind) := significand n fraction
  (n, cut - (fraction.length - cutBehind : Nat))

/-- The magnitude as a float, if it has a value. An exponent of more than 32 bits is not put
together with the places of the digits: it makes a zero, or no value at all. -/
def magnitude? (t : NumberText) : Option Float :=
  let (digits, places) := t.kept
  match t.exponent with
  | none => scaled? digits places
  | some (negative, exponent) =>
    let shift := digitsValue exponent
    if shift ≤ greatestExponent then
      scaled? digits (saturated (if negative then places - shift else places + shift))
    else if negative || digits == 0 then some 0.0
    else none

/-- Whether the text has digits only. -/
def isPlain (t : NumberText) : Bool :=
  t.fraction.isNone && t.exponent.isNone

/-- The magnitude of the least whole number; a number below is a float. -/
def leastWhole : Nat :=
  9223372036854775808

/-- The value of a number text with or without a minus sign. The negative zero is a float. -/
def value? (negative : Bool) (t : NumberText) : Option Number :=
  let n := digitsValue t.whole
  if t.isPlain && !negative && n < UInt64.size then some (.whole n)
  else if t.isPlain && negative && 0 < n && n ≤ leastWhole then some (.whole (-n))
  else t.magnitude?.map fun x => .float (if negative then -x else x)

end NumberText

/-- Reads a number of which a minus sign, where there is one, has been read already. -/
def readNumber (negative : Bool) (s : List Char) : Except Fault (Number × List Char) := do
  let (text, rest) ← readNumberText s
  match text.value? negative with
  | some n => .ok (n, rest)
  | none => .error .malformed

/-- Skips a number. Its value is not taken, so it may be beyond every float; and where it ends too
early it counts as malformed. -/
def skipNumber (s : List Char) : Except Fault (List Char) :=
  match readNumberText s with
  | .ok (_, rest) => .ok rest
  | .error _ => .error .malformed

example : String.ofList (writeFloat 0.00001) = "0.00001" ∧
    String.ofList (writeFloat 9999999999999998) = "9999999999999998.0" ∧
    String.ofList (writeFloat 1e16) = "1e+16" ∧ String.ofList (writeFloat 9.5e-6) = "9.5e-6" ∧
    String.ofList (writeFloat (-0.0)) = "-0.0" ∧ String.ofList (writeFloat 1.5) = "1.5" ∧
    String.ofList (writeFloat (0.0 / 0.0)) = "null" := by
  decide +kernel

end EchoBench.Json
