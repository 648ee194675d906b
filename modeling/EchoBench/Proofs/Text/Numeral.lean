import EchoBench.Text.Character
import EchoBench.Text.Numeral
import Mathlib.Data.List.TakeWhile

/-!
# `EchoBench.Proofs.Text.Numeral`: which texts are numbers within limits

The reader of numbers goes through a text from left to right. What it makes of a text is said here
without going through it: which texts it accepts, with their values, and which fault it reports for
any other.
-/

set_option autoImplicit false

namespace EchoBench.Proofs.Text

open EchoBench.Text

/-! ### Texts that are accepted

A numeral is one plus sign at most, and then digits only, of which there is at least one.
`IsNumeral` says this of a text, and that its value is within limits, without going through the text
from left to right as the reader does. `readNumeral_eq_ok_iff` says that the reader accepts exactly
these texts, and gives their value.
-/

/-- The value of the digits of a numeral, from which a plus sign in front has been taken away. -/
def numeralValue (s : List Char) : Nat :=
  Nat.ofDigitChars 10 (dropPlus s) 0

/-- A text is a number within limits: one plus sign at most, and then digits only. -/
def IsNumeral (limits : Limits) (s : List Char) : Prop :=
  dropPlus s ≠ [] ∧ (∀ c ∈ dropPlus s, c.isDigit = true) ∧ limits.Admits (numeralValue s)

/-- Whether a text is a numeral can be decided without the reader, by its digits and their value. -/
instance (limits : Limits) (s : List Char) : Decidable (IsNumeral limits s) :=
  have : Decidable (∀ c ∈ dropPlus s, c.isDigit = true) := List.decidableBAll _ (dropPlus s)
  inferInstanceAs (Decidable (_ ∧ _ ∧ _))

section Numerals

variable {limits : Limits} {s : List Char} {n : Nat}

/-- A reader that comes to the end of a text has met digits only. -/
theorem isDigit_of_readDigits {greatest value : Nat}
    (hread : readDigits greatest value s = .ok n) : ∀ c ∈ s, c.isDigit = true := by
  induction s generalizing value with
  | nil => exact nofun
  | cons c s ih =>
    simp only [readDigits] at hread
    split at hread
    · next hc =>
      split at hread
      · exact List.forall_mem_cons.mpr ⟨hc, ih hread⟩
      · cases hread
    · cases hread

/-- What the reader makes of digits is up to their value: it is within the limits, too great for the
word, or a zero where none may be. -/
theorem readNumeral_of_digits (hne : dropPlus s ≠ [])
    (hdigits : ∀ c ∈ dropPlus s, c.isDigit = true) :
    readNumeral limits s =
      if limits.greatest < numeralValue s then .error .tooLarge
      else if numeralValue s = 0 ∧ limits.zeroAllowed = false then .error .zero
      else .ok (numeralValue s) := by
  have hread := readDigits_of_digits limits.greatest 0 (dropPlus s) hdigits (Nat.zero_le _)
  rw [readNumeral]
  split
  · next hnil => exact absurd hnil hne
  · rw [hread, numeralValue]
    by_cases hle : Nat.ofDigitChars 10 (dropPlus s) 0 ≤ limits.greatest
    · rw [if_pos hle, if_neg (Nat.not_lt.mpr hle)]
    · rw [if_neg hle, if_pos (Nat.lt_of_not_le hle)]

/-- The reader accepts numerals within its limits and nothing else, and gives their value. -/
theorem readNumeral_eq_ok_iff :
    readNumeral limits s = .ok n ↔ IsNumeral limits s ∧ n = numeralValue s := by
  by_cases hdigits : dropPlus s ≠ [] ∧ ∀ c ∈ dropPlus s, c.isDigit = true
  · rw [readNumeral_of_digits hdigits.1 hdigits.2]
    have hadmits : IsNumeral limits s ↔ limits.Admits (numeralValue s) :=
      ⟨fun h => h.2.2, fun h => ⟨hdigits.1, hdigits.2, h⟩⟩
    rw [hadmits, Limits.Admits]
    grind
  · refine ⟨fun hread => absurd ?_ hdigits, fun h => absurd ⟨h.1.1, h.1.2.1⟩ hdigits⟩
    rw [readNumeral] at hread
    split at hread
    · cases hread
    · next hne =>
      split at hread
      · cases hread
      · next hread' => exact ⟨hne, isDigit_of_readDigits hread'⟩

end Numerals

/-! ### White space

A text that is trimmed has nothing left exactly when all of it is white space (`trim_eq_nil_iff`).
-/

section Blank

variable {s : List Char}

/-- Dropping white space at the end leaves nothing if and only if there was nothing else. -/
theorem dropBlankEnd_eq_nil_iff : dropBlankEnd s = [] ↔ ∀ c ∈ s, isBlank c = true := by
  rw [dropBlankEnd, List.reverse_eq_nil_iff, List.dropWhile_eq_nil_iff]
  simp

/-- Nothing is left of a text that is trimmed exactly when all of it is white space. -/
theorem trim_eq_nil_iff : trim s = [] ↔ ∀ c ∈ s, isBlank c = true := by
  rw [trim, dropBlankEnd_eq_nil_iff]
  constructor
  · intro hrest c hc
    rw [← List.takeWhile_append_dropWhile (p := isBlank) (l := s)] at hc
    rcases List.mem_append.mp hc with hfront | hback
    · exact List.mem_takeWhile_imp hfront
    · exact hrest c hback
  · intro hall c hc
    exact hall c ((List.dropWhile_suffix _).mem hc)

end Blank

/-! ### The digits that a text begins with

A reader of numbers goes from left to right and stops at its first fault. Here that is said without
the reading. Of a text, the digits that it begins with matter (`digitRun`, behind one plus sign at
most), and whether anything follows them (`afterRun`).

`readNumeral_eq` is the equation. A value beyond the limit is met among the digits, so what follows
them does not matter then; only where the digits can be read to their end is it of any account that
something follows, or that there were none.

A number may be padded: by white space at both ends, one plus sign and zeros. `trim_padded` and
`readNumeral_padded` say that nothing of it changes what is read.
-/

/-- The digits that a text begins with, behind one plus sign at most. The reader takes these one by
one, and they decide whether the number is too large. -/
def digitRun (s : List Char) : List Char :=
  (dropPlus s).takeWhile Char.isDigit

/-- What follows the digits that a text begins with. It is empty exactly where the text is digits
and nothing else. -/
def afterRun (s : List Char) : List Char :=
  (dropPlus s).dropWhile Char.isDigit

/-- The value of the digits that a text begins with. Overflow is met in these before whatever stands
behind them, which decides which of two faults is told. -/
def runValue (s : List Char) : Nat :=
  Nat.ofDigitChars 10 (digitRun s) 0

/-! ### Any text -/

/-- A reader with a running value goes through the digits that come first. Where the value exceeds
the limit it stops there, and else at what follows them. -/
theorem readDigits_eq {greatest value : Nat} (s : List Char) (hvalue : value ≤ greatest) :
    readDigits greatest value s =
      if greatest < Nat.ofDigitChars 10 (s.takeWhile Char.isDigit) value then .error .tooLarge
      else if s.dropWhile Char.isDigit = [] then
        .ok (Nat.ofDigitChars 10 (s.takeWhile Char.isDigit) value)
      else .error .invalidDigit := by
  induction s generalizing value with
  | nil =>
    show (Except.ok value : Except NumeralFault Nat) = _
    simp [Nat.ofDigitChars, hvalue]
  | cons c s ih =>
    cases hc : c.isDigit with
    | false => simp [readDigits, hc, hvalue]
    | true =>
      simp only [readDigits, hc, if_true, List.takeWhile_cons, List.dropWhile_cons,
        Nat.ofDigitChars_cons]
      show (if 10 * value + digitValue c ≤ greatest then _ else _) = _
      by_cases hle : 10 * value + digitValue c ≤ greatest
      · rw [if_pos hle]
        exact ih hle
      · -- The digits that are left cannot take the value below the limit again.
        have hgrow : 10 * value + digitValue c ≤
            Nat.ofDigitChars 10 (s.takeWhile Char.isDigit) (10 * value + digitValue c) :=
          le_ofDigitChars _ _
        rw [if_neg hle]
        exact (if_pos (Nat.lt_of_lt_of_le (Nat.lt_of_not_le hle) hgrow)).symm

/-- What the reader makes of any text: a value, or the first fault from the left. The right side
looks at the digits in front, their value and what follows them, and not at the way the reader goes.
-/
theorem readNumeral_eq (limits : Limits) (s : List Char) :
    readNumeral limits s =
      if limits.greatest < runValue s then .error .tooLarge
      else if digitRun s = [] ∨ afterRun s ≠ [] then .error .invalidDigit
      else if runValue s = 0 ∧ limits.zeroAllowed = false then .error .zero
      else .ok (runValue s) := by
  have hread := readDigits_eq (dropPlus s) (Nat.zero_le limits.greatest)
  rw [readNumeral]
  split
  · next hnil => simp [runValue, digitRun, hnil]
  · next hne =>
    by_cases hlarge : limits.greatest < runValue s
    · have hfault : readDigits limits.greatest 0 (dropPlus s) = .error .tooLarge :=
        hread.trans (if_pos hlarge)
      simp only [hfault, hlarge, if_true]
    · by_cases hrest : afterRun s = []
      · have hvalue : readDigits limits.greatest 0 (dropPlus s) = .ok (runValue s) :=
          hread.trans ((if_neg hlarge).trans (if_pos hrest))
        -- With nothing behind the digits, the text is all digits and there is one.
        have hrun : digitRun s ≠ [] := by
          intro hnone
          have hsplit : digitRun s ++ afterRun s = dropPlus s := List.takeWhile_append_dropWhile
          rw [hnone, hrest] at hsplit
          exact hne hsplit.symm
        simp only [hvalue, hlarge, hrest, hrun, if_false, ne_eq, not_true_eq_false, or_self]
      · have hfault : readDigits limits.greatest 0 (dropPlus s) = .error .invalidDigit :=
          hread.trans ((if_neg hlarge).trans (if_neg hrest))
        simp only [hfault, hlarge, hrest, if_false, ne_eq, not_false_eq_true, or_true, if_true]

example : readNumeral .bits16 "70000x".toList = .error .tooLarge ∧
    readNumeral .bits16 "7000x".toList = .error .invalidDigit := by
  decide +kernel

/-! ### Padding -/

section Padding

variable {front back s : List Char}

/-- Where nothing is blank nothing is dropped, so a number between blanks comes out of trimming as
it was. -/
theorem dropWhile_isBlank_of_forall (hs : ∀ c ∈ s, isBlank c = false) :
    s.dropWhile isBlank = s := by
  cases s with
  | nil => rfl
  | cons c s => simp [hs c List.mem_cons_self]

/-- A text without white space is what is left of it when it is trimmed, with white space around
it. -/
theorem trim_padded (hfront : ∀ c ∈ front, isBlank c = true) (hback : ∀ c ∈ back, isBlank c = true)
    (hs : ∀ c ∈ s, isBlank c = false) : trim (front ++ s ++ back) = s := by
  rw [List.append_assoc, trim, List.dropWhile_append_of_pos hfront]
  cases s with
  | nil =>
    rw [List.nil_append, List.dropWhile_eq_nil_iff.mpr hback]
    rfl
  | cons c s =>
    have hfirst : (c :: s ++ back).dropWhile isBlank = c :: s ++ back := by
      simp [hs c List.mem_cons_self]
    have hreversed : ∀ x ∈ (c :: s).reverse, isBlank x = false :=
      fun x hx => hs x (List.mem_reverse.mp hx)
    rw [hfirst, dropBlankEnd, List.reverse_append,
      List.dropWhile_append_of_pos fun x hx => hback x (List.mem_reverse.mp hx),
      dropWhile_isBlank_of_forall hreversed, List.reverse_reverse]

/-- The decimal text of a number, behind zeros and one plus sign or none. -/
def padded (plus : Bool) (zeros n : Nat) : List Char :=
  (if plus then ['+'] else []) ++ (List.replicate zeros '0' ++ decimal n)

variable {plus : Bool} {zeros n : Nat}

/-- A number with zeros in front of it is still made of digits. -/
theorem isDigit_zeros_decimal : ∀ c ∈ List.replicate zeros '0' ++ decimal n, c.isDigit = true := by
  intro c hc
  rcases List.mem_append.mp hc with hzero | hdigit
  · rw [List.eq_of_mem_replicate hzero]
    decide
  · exact isDigit_decimal c hdigit

/-- Digits do not begin with a plus sign, so nothing is dropped from them. -/
theorem dropPlus_of_digits (hs : ∀ c ∈ s, c.isDigit = true) : dropPlus s = s := by
  unfold dropPlus
  split
  · next rest =>
    have hsign : '+'.isDigit = true := hs '+' List.mem_cons_self
    cases hsign
  · rfl

/-- Dropping the plus sign of a padded number leaves its digits, with the zeros that were put in
front of them. -/
theorem dropPlus_padded : dropPlus (padded plus zeros n) = List.replicate zeros '0' ++ decimal n := by
  cases plus with
  | true => rfl
  | false => exact dropPlus_of_digits isDigit_zeros_decimal

/-- No character of a padded number is blank, so trimming takes away the white space around it and
stops there. -/
theorem isBlank_padded : ∀ c ∈ padded plus zeros n, isBlank c = false := by
  have hdigits : ∀ c ∈ List.replicate zeros '0' ++ decimal n, isBlank c = false :=
    fun c hc => isBlank_eq_false_of_isDigit c (isDigit_zeros_decimal c hc)
  cases plus with
  | false => exact hdigits
  | true => exact List.forall_mem_cons.mpr ⟨by decide, hdigits⟩

/-- Neither the sign nor the zeros change what is read, since neither of them changes the value of
the digits. -/
theorem readNumeral_padded {limits : Limits} (hn : limits.Admits n) :
    readNumeral limits (padded plus zeros n) = .ok n := by
  have hvalue : numeralValue (padded plus zeros n) = n := by
    rw [numeralValue, dropPlus_padded, Nat.ofDigitChars_append, Nat.ofDigitChars_replicate_zero]
    exact Nat.ofDigitChars_ten_toDigits
  have hdigits : ∀ c ∈ dropPlus (padded plus zeros n), c.isDigit = true :=
    dropPlus_padded ▸ isDigit_zeros_decimal
  have hne : dropPlus (padded plus zeros n) ≠ [] :=
    dropPlus_padded ▸ List.append_ne_nil_of_right_ne_nil _ Nat.toDigits_ne_nil
  exact readNumeral_eq_ok_iff.mpr ⟨⟨hne, hdigits, hvalue.symm ▸ hn⟩, hvalue.symm⟩

end Padding

end EchoBench.Proofs.Text
