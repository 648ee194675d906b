/-!
# `EchoBench.Text.Numeral`: numbers as texts

Whole numbers are written and read in decimal, where a place sets the limits, and in hexadecimal,
where a text names a character by its number.
-/

set_option autoImplicit false

namespace EchoBench.Text

/-! ### Decimal numbers within limits

A number is read from left to right with a running value. At each place a character that is no
digit is reported first, then a running value above the limit; so the first fault from the left
wins, and `70000x` is too large for a port although it is not a number either.

`decimal` is the writing side: no sign, no leading zero.
-/

/-- The decimal text of a number, without sign or leading zeros. -/
def decimal (n : Nat) : List Char :=
  Nat.toDigits 10 n

theorem isDigit_decimal {n : Nat} : ∀ c ∈ decimal n, c.isDigit = true :=
  fun _ => Nat.isDigit_of_mem_toDigits (by decide) (by decide)

/-- The value of a decimal digit. -/
def digitValue (c : Char) : Nat :=
  c.toNat - '0'.toNat

/-- Which whole numbers a place accepts. -/
structure Limits where
  /-- The greatest number accepted. -/
  greatest : Nat
  /-- Whether zero is accepted. -/
  zeroAllowed : Bool
  deriving DecidableEq, Repr

namespace Limits

/-- Numbers of sixteen bits, such as a port. -/
def bits16 : Limits := ⟨UInt16.size - 1, true⟩

/-- Numbers of sixty-four bits, such as a count. -/
def bits64 : Limits := ⟨UInt64.size - 1, true⟩

/-- Numbers of sixty-four bits that are not zero, such as a size or a span of time. -/
def positive64 : Limits := ⟨UInt64.size - 1, false⟩

/-- A number is within the limits. -/
def Admits (l : Limits) (n : Nat) : Prop :=
  n ≤ l.greatest ∧ (l.zeroAllowed = true ∨ n ≠ 0)

instance (l : Limits) (n : Nat) : Decidable (l.Admits n) :=
  inferInstanceAs (Decidable (_ ∧ _))

end Limits

/-- Why a text is not a number within the limits. -/
inductive NumeralFault
  /-- A character is not a digit, or there is no digit at all. -/
  | invalidDigit
  /-- The number is greater than the limit. -/
  | tooLarge
  /-- The number is zero where zero is not accepted. -/
  | zero
  deriving DecidableEq, Repr

/-- The wording of a fault. -/
def NumeralFault.message : NumeralFault → String
  | .invalidDigit => "invalid digit found in string"
  | .tooLarge => "number too large to fit in target type"
  | .zero => "number would be zero for non-zero type"

/-- Reads digits from left to right onto a running value. -/
def readDigits (greatest : Nat) : Nat → List Char → Except NumeralFault Nat
  | value, [] => .ok value
  | value, c :: rest =>
    if c.isDigit then
      let next := 10 * value + digitValue c
      if next ≤ greatest then readDigits greatest next rest else .error .tooLarge
    else .error .invalidDigit

/-- A text without one leading plus sign. -/
def dropPlus : List Char → List Char
  | '+' :: rest => rest
  | s => s

/-- Reads a whole number: one plus sign at most, then at least one digit and nothing else. -/
def readNumeral (limits : Limits) (s : List Char) : Except NumeralFault Nat :=
  match dropPlus s with
  | [] => .error .invalidDigit
  | digits =>
    match readDigits limits.greatest 0 digits with
    | .error fault => .error fault
    | .ok n => if n = 0 ∧ limits.zeroAllowed = false then .error .zero else .ok n

/-- A value only grows by the digits that are read onto it. -/
theorem le_ofDigitChars (s : List Char) (value : Nat) : value ≤ Nat.ofDigitChars 10 s value := by
  rw [Nat.ofDigitChars_eq_ofDigitChars_zero]
  exact Nat.le_trans (Nat.le_mul_of_pos_left _ (Nat.pow_pos (by decide))) (Nat.le_add_right _ _)

/-- On digits alone the running value is the value of the whole text, or it exceeds the limit. -/
theorem readDigits_of_digits (greatest value : Nat) (s : List Char)
    (hs : ∀ c ∈ s, c.isDigit = true) (hv : value ≤ greatest) :
    readDigits greatest value s =
      if Nat.ofDigitChars 10 s value ≤ greatest then .ok (Nat.ofDigitChars 10 s value)
      else .error .tooLarge := by
  induction s generalizing value with
  | nil => simp [readDigits, Nat.ofDigitChars, hv]
  | cons c s ih =>
    have hc : c.isDigit = true := hs c (by simp)
    have hrest : ∀ x ∈ s, x.isDigit = true := fun x hx => hs x (by simp [hx])
    simp only [readDigits, hc, if_true, Nat.ofDigitChars_cons]
    rw [show c.toNat - '0'.toNat = digitValue c from rfl]
    by_cases hle : 10 * value + digitValue c ≤ greatest
    · rw [if_pos hle, ih _ hrest hle]
    · -- A value above the limit only grows.
      have hgrow := le_ofDigitChars s (10 * value + digitValue c)
      rw [if_neg hle, if_neg (by omega)]

/-! ### Hexadecimal digits

Escapes in quoted texts name a character by hexadecimal digits. `hexDigit` writes a digit in lower
case; `hexValue?` reads either case, and takes back what `hexDigit` writes.
-/

/-- The lower-case hexadecimal digit of a number below sixteen. -/
def hexDigit (n : Nat) : Char :=
  Nat.digitChar n

/-- The value of a hexadecimal digit of either case. -/
def hexValue? (c : Char) : Option Nat :=
  if c.isDigit then some (c.toNat - '0'.toNat)
  else if 'a' ≤ c ∧ c ≤ 'f' then some (c.toNat - 'a'.toNat + 10)
  else if 'A' ≤ c ∧ c ≤ 'F' then some (c.toNat - 'A'.toNat + 10)
  else none

/-- The hexadecimal text of a number in a fixed number of places. -/
def hexPlaces : Nat → Nat → List Char
  | 0, _ => []
  | places + 1, n => hexPlaces places (n / 16) ++ [hexDigit (n % 16)]

/-- The hexadecimal text of a number, without leading zeros. -/
def hex (n : Nat) : List Char :=
  Nat.toDigits 16 n

theorem hexValue?_hexDigit (n : Nat) (h : n < 16) : hexValue? (hexDigit n) = some n := by
  have all : ∀ n, n < 16 → hexValue? (hexDigit n) = some n := by decide
  exact all n h

end EchoBench.Text
