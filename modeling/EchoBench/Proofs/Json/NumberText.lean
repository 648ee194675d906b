import EchoBench.Json.Fault
import EchoBench.Json.Number
import Mathlib

/-!
# `EchoBench.Proofs.Json.NumberText`: how a number is written and read

Reading takes a number as the text that it is before its value is asked for. `readNumberText_append`
is the law of that first half: a number text whose runs of digits are proper (`WellFormed`) is read
back from whatever spells it (`SpellsNumber`), if what follows does not go on with the number
(`EndsNumber`). `characters` is the one spelling that is ever written.

A number text stands for a decimal (`decimalValue`), but the reader does not compute that decimal.
It keeps the digits that fit sixty-four bits and scales them, and it treats a very long exponent by
itself. Where neither happens it scales the digits of the decimal by its power of ten
(`magnitude?_of_isShort`), and this is the only way in which the proofs about floats open the second
half of the reader.

A whole number is written by its digits alone, and a float by those of a decimal, with a point put
in and perhaps an exponent. `written` is the number text of a decimal, `characters_written` says
that it is the one that is written, and `decimalValue_written` that it stands for the decimal.
-/

set_option autoImplicit false

namespace EchoBench.Proofs.Json

open EchoBench.Json
open EchoBench.Text

/-! ### One reader after another

Readers are put together from smaller ones, each of which gives a value or a fault. A value comes
out only where all of them gave one (`bind_eq_ok_iff`, `map_eq_ok_iff`). Where it does not matter
which fault it was, a reader is looked at as the value that it gives, if it gives one
(`toOption_bind`, `toOption_map`).
-/

section Readers

variable {α β ε : Type}

/-- A reader that goes on gives a value if both its parts do. Readers are opened with this one
equivalence, step by step, and never by unfolding what stands for going on. -/
theorem bind_eq_ok_iff {x : Except ε α} {f : α → Except ε β} {b : β} :
    (x >>= f) = .ok b ↔ ∃ a, x = .ok a ∧ f a = .ok b := by
  cases x <;> simp [bind, Except.bind]

/-- A reader whose value is changed afterwards gives a value if it gave one before. -/
theorem map_eq_ok_iff {x : Except ε α} {f : α → β} {b : β} :
    x.map f = .ok b ↔ ∃ a, x = .ok a ∧ f a = b := by
  cases x <;> simp [Except.map]

/-- Of two readers in a row the value is that of the second, and the faults of either are forgotten
alike. So equations between readers that differ in their faults only can be chained. -/
theorem toOption_bind (x : Except ε α) (f : α → Except ε β) :
    (x >>= f).toOption = x.toOption.bind fun a => (f a).toOption := by
  cases x <;> rfl

/-- Changing the value of a reader does not touch its faults. With it readers can be compared as
options, where which fault it was does not matter. -/
theorem toOption_map (x : Except ε α) (f : α → β) : (x.map f).toOption = x.toOption.map f := by
  cases x <;> rfl

/-- A reader looked at as its value gives that value if and only if it ends well, so nothing is lost
about the texts that are read. -/
theorem toOption_eq_some_iff {x : Except ε α} {a : α} : x.toOption = some a ↔ x = .ok a := by
  cases x <;> simp [Except.toOption]

end Readers

/-! ### Runs of digits -/

/-- A text of at least one digit, and of nothing else, as the grammar has it behind a point and in
an exponent. -/
def IsRun (s : List Char) : Prop :=
  s ≠ [] ∧ ∀ c ∈ s, c.isDigit = true

/-- What follows does not go on with a run of digits. Without this the reader would take more than
was written. -/
def EndsRun (rest : List Char) : Prop :=
  ∀ c ∈ rest.head?, c.isDigit = false

/-- What follows does not go on with a number: no digit, point or exponent letter. Commas, brackets,
space and the end of a text are all of this kind, so every place behind a value is. -/
def EndsNumber (rest : List Char) : Prop :=
  ∀ c ∈ rest.head?, c.isDigit = false ∧ c ≠ '.' ∧ c ≠ 'e' ∧ c ≠ 'E'

section Runs

variable {s rest : List Char}

/-- The end of a number is the end of its last run of digits. -/
theorem EndsNumber.endsRun (h : EndsNumber rest) : EndsRun rest :=
  fun c hc => (h c hc).1

/-- A character that is no digit ends a run. Feeds the points and the letters between the runs of a
number. -/
theorem endsRun_cons {c : Char} (h : c.isDigit = false) (rest : List Char) :
    EndsRun (c :: rest) := by
  intro d hd
  obtain rfl : c = d := by simpa using hd
  exact h

/-- A run with more digits behind it is a run, which is how the digits in front of a point and
behind it are put together. -/
theorem IsRun.append {t : List Char} (hs : IsRun s) (ht : ∀ c ∈ t, c.isDigit = true) :
    IsRun (s ++ t) := by
  refine ⟨List.append_ne_nil_of_left_ne_nil hs.1 t, ?_⟩
  intro c hc
  exact (List.mem_append.mp hc).elim (hs.2 c) (ht c)

/-- The digits of a number are a run, since even zero has one. -/
theorem isRun_decimal (n : Nat) : IsRun (decimal n) :=
  ⟨Nat.toDigits_ne_nil, isDigit_decimal⟩

/-- A run is taken as far as it goes, and no further, because what follows does not begin with a
digit. -/
theorem takeWhile_run (hs : ∀ c ∈ s, c.isDigit = true) (hrest : EndsRun rest) :
    (s ++ rest).takeWhile Char.isDigit = s ∧ (s ++ rest).dropWhile Char.isDigit = rest := by
  rw [List.takeWhile_append_of_pos hs, List.dropWhile_append_of_pos hs]
  cases rest with
  | nil => simp
  | cons c rest =>
    have hc : c.isDigit = false := hrest c rfl
    simp [hc]

/-- A run is read up to what ends it. The three readers below, of the digits in front of the point,
behind it and in the exponent, all come down to this. -/
theorem readDigitRun_append (hs : IsRun s) (hrest : EndsRun rest) :
    readDigitRun (s ++ rest) = .ok (s, rest) := by
  obtain ⟨htake, hdrop⟩ := takeWhile_run hs.2 hrest
  obtain ⟨c, s, rfl⟩ := List.exists_cons_of_ne_nil hs.1
  rw [readDigitRun, htake, hdrop]

end Runs

/-! ### Number texts -/

/-- The digits behind a point, with the point, or nothing where a number has no fraction. -/
def pointed : Option (List Char) → List Char
  | none => []
  | some digits => '.' :: digits

/-- The digits of an exponent, with its letter and its sign in the way that the writer has them. -/
def scaled : Option (Bool × List Char) → List Char
  | none => []
  | some (negative, digits) => 'e' :: (if negative then '-' else '+') :: digits

/-- The characters of a number text, in the one way in which it is written; the ways in which it may
be read are those of `SpellsNumber`. -/
def characters (t : NumberText) : List Char :=
  t.whole ++ (pointed t.fraction ++ scaled t.exponent)

/-- The runs of digits of a number text are proper, and there is no zero in front of the first. -/
structure WellFormed (t : NumberText) : Prop where
  whole : IsRun t.whole
  /-- A zero in front of the point stands alone. -/
  no_zero : ∀ rest, t.whole = '0' :: rest → rest = []
  fraction : ∀ digits ∈ t.fraction, IsRun digits
  exponent : ∀ p ∈ t.exponent, IsRun p.2

/-- The ways to spell an exponent: with either letter, and a plus sign may be left out. -/
inductive SpellsExponent : Option (Bool × List Char) → List Char → Prop
  | absent : SpellsExponent none []
  | unsigned {letter : Char} {digits : List Char} (hletter : letter = 'e' ∨ letter = 'E')
    (hdigits : IsRun digits) : SpellsExponent (some (false, digits)) (letter :: digits)
  | signed {letter : Char} {negative : Bool} {digits : List Char}
    (hletter : letter = 'e' ∨ letter = 'E') (hdigits : IsRun digits) :
    SpellsExponent (some (negative, digits))
      (letter :: (if negative then '-' else '+') :: digits)

/-- The ways to spell a number text, which differ in the exponent only: its letter may be of either
case, and a plus sign may stand or be left out. -/
inductive SpellsNumber : NumberText → List Char → Prop
  | intro {t : NumberText} {exponent : List Char} (h : WellFormed t)
    (hexponent : SpellsExponent t.exponent exponent) :
    SpellsNumber t (t.whole ++ (pointed t.fraction ++ exponent))

section Texts

variable {s rest : List Char}

/-- The digits in front of the point are read up to what ends them, if a zero at their front stands
alone. -/
theorem readWhole_append (hs : IsRun s) (hzero : ∀ t, s = '0' :: t → t = [])
    (hrest : EndsRun rest) : readWhole (s ++ rest) = .ok (s, rest) := by
  simp only [readWhole, readDigitRun_append hs hrest, bind, Except.bind]
  split
  · next c t => exact absurd (hzero (c :: t) rfl) (List.cons_ne_nil c t)
  · rfl

/-- A point and its digits are read, or found to be missing. What follows must not begin with a
point, for that would be taken for the one of this number. -/
theorem readFraction_append {p : Option (List Char)} (hp : ∀ digits ∈ p, IsRun digits)
    (hrest : EndsRun rest) (hpoint : '.' ∉ rest.head?) :
    readFraction (pointed p ++ rest) = .ok (p, rest) := by
  cases p with
  | none =>
    rw [pointed, List.nil_append, readFraction.eq_def]
    split
    · exact absurd rfl hpoint
    · rfl
  | some digits =>
    rw [pointed, List.cons_append, readFraction, readDigitRun_append (hp digits rfl) hrest]
    rfl

/-- A run of digits has no sign in front, so nothing is taken for one. -/
theorem readSign_append (hs : IsRun s) (rest : List Char) :
    readSign (s ++ rest) = (false, s ++ rest) := by
  obtain ⟨c, s, rfl⟩ := List.exists_cons_of_ne_nil hs.1
  have hdigit : c.isDigit = true := hs.2 c List.mem_cons_self
  rw [List.cons_append, readSign.eq_def]
  split
  · next heq =>
    obtain ⟨rfl, -⟩ := List.cons.inj heq
    cases hdigit
  · next heq =>
    obtain ⟨rfl, -⟩ := List.cons.inj heq
    cases hdigit
  · rfl

/-- An exponent is read in whichever way it is spelled, or found to be missing. -/
theorem readExponent_append {p : Option (Bool × List Char)} (hs : SpellsExponent p s)
    (hrest : EndsNumber rest) : readExponent (s ++ rest) = .ok (p, rest) := by
  cases hs with
  | absent =>
    cases rest with
    | nil => rfl
    | cons c rest =>
      obtain ⟨-, -, hlower, hupper⟩ := hrest c rfl
      simp [readExponent, hlower, hupper]
  | unsigned hletter hdigits =>
    -- The exponent begins with a digit, and no sign is one.
    rw [List.cons_append, readExponent, if_pos hletter, readSign_append hdigits]
    simp [readDigitRun_append hdigits hrest.endsRun, bind, Except.bind]
  | @signed letter negative digits hletter hdigits =>
    rw [List.cons_append, readExponent, if_pos hletter]
    cases negative <;>
      simp [readSign, readDigitRun_append hdigits hrest.endsRun, bind, Except.bind]

/-- An exponent begins with a letter, so neither a digit nor the point goes on with it. -/
theorem SpellsExponent.head?_append {p : Option (Bool × List Char)} (hs : SpellsExponent p s)
    (hrest : EndsNumber rest) : EndsRun (s ++ rest) ∧ '.' ∉ (s ++ rest).head? := by
  have hletters : ∀ {c : Char} (t : List Char), c = 'e' ∨ c = 'E' →
      EndsRun (c :: t ++ rest) ∧ '.' ∉ (c :: t ++ rest).head? := by
    rintro c t (rfl | rfl) <;> exact ⟨endsRun_cons (by decide) _, by simp⟩
  cases hs with
  | absent => exact ⟨hrest.endsRun, fun h => (hrest '.' h).2.1 rfl⟩
  | unsigned hletter hdigits => exact hletters _ hletter
  | signed hletter hdigits => exact hletters _ hletter

/-- A proper number text is read back from what spells it, part by part: the whole digits, the
fraction and the exponent, each of which ends where the next one begins. -/
theorem readNumberText_append {t : NumberText} (hs : SpellsNumber t s) (hrest : EndsNumber rest) :
    readNumberText (s ++ rest) = .ok (t, rest) := by
  obtain @⟨exponent, h, hspells⟩ := hs
  obtain ⟨hends, hpoint⟩ := hspells.head?_append hrest
  have hbehind : EndsRun (pointed t.fraction ++ (exponent ++ rest)) := by
    cases t.fraction with
    | none => exact hends
    | some digits => exact endsRun_cons (by decide) _
  have hwhole := readWhole_append h.whole h.no_zero hbehind
  have hfraction := readFraction_append h.fraction hends hpoint
  have hexponent := readExponent_append hspells hrest
  rw [List.append_assoc, List.append_assoc, readNumberText]
  simp only [hwhole, hfraction, hexponent, bind, Except.bind]

/-- The spelling of an exponent that is written: the small letter, and always a sign. -/
theorem spellsExponent_scaled {p : Option (Bool × List Char)} (hp : ∀ q ∈ p, IsRun q.2) :
    SpellsExponent p (scaled p) := by
  cases p with
  | none => exact .absent
  | some q => exact .signed (.inl rfl) (hp q rfl)

/-- A proper number text is read back from its characters, since they are one of its spellings. -/
theorem readNumberText_characters {t : NumberText} (h : WellFormed t) (hrest : EndsNumber rest) :
    readNumberText (characters t ++ rest) = .ok (t, rest) :=
  readNumberText_append ⟨h, spellsExponent_scaled h.exponent⟩ hrest

end Texts

/-! ### Whole numbers -/

/-- The digits of a positive number do not begin with a zero, so they make a proper number text and
need no case of their own for it. -/
theorem head?_decimal_ne {n : Nat} (h : 0 < n) : (decimal n).head? ≠ some '0' := by
  have hdigit : ∀ d < 10, 0 < d → Nat.digitChar d ≠ '0' := by decide
  induction n using Nat.strongRecOn with
  | ind n ih =>
    rw [decimal, Nat.toDigits_eq_if (by decide)]
    split
    · next hlt => simpa using hdigit n hlt h
    · -- The first digit is that of a tenth of the number.
      have hfront : (Nat.toDigits 10 (n / 10)).head? ≠ some '0' := ih (n / 10) (by omega) (by omega)
      obtain ⟨d, ds, hds⟩ := List.exists_cons_of_ne_nil (Nat.toDigits_ne_nil (n := n / 10) (b := 10))
      rw [hds] at hfront ⊢
      exact hfront

/-- The number text of a whole number, which is its digits alone. With no fraction and no exponent
it is read as a whole number wherever it fits a word. -/
def wholeText (n : Nat) : NumberText :=
  ⟨decimal n, none, none⟩

/-- A whole number is written as its digits and nothing else. -/
theorem characters_wholeText (n : Nat) : characters (wholeText n) = decimal n := by
  simp [characters, wholeText, pointed, scaled]

/-- The number text of a whole number is proper: its digits begin with a zero only if it is zero. -/
theorem wellFormed_wholeText (n : Nat) : WellFormed (wholeText n) where
  whole := isRun_decimal n
  no_zero rest hrest := by
    rcases Nat.eq_zero_or_pos n with rfl | hpos
    · exact (List.cons.inj hrest).2.symm
    · have hhead : (decimal n).head? = some '0' := congrArg List.head? hrest
      exact absurd hhead (head?_decimal_ne hpos)
  fraction := nofun
  exponent := nofun

/-- A whole number is spelled by its digits, of which the first is not zero unless it is the only
one. -/
theorem spellsNumber_decimal (n : Nat) : SpellsNumber (wholeText n) (decimal n) := by
  have hspells := SpellsNumber.intro (wellFormed_wholeText n) .absent
  simpa [wholeText, pointed] using hspells

/-- The value of the digits of a number is the number; this closes the round trip of the counts of a
record, whose digits are read one after the other. -/
theorem digitsValue_decimal (n : Nat) : digitsValue (decimal n) = n :=
  Nat.ofDigitChars_ten_toDigits

/-- A whole number of sixty-four bits is read back. It is written with digits alone, so it is read
as a whole number and no float is made of it. -/
theorem readNumber_decimal {n : Nat} (hn : n < UInt64.size) {rest : List Char}
    (hrest : EndsNumber rest) : readNumber false (decimal n ++ rest) = .ok (.whole n, rest) := by
  have htext := readNumberText_characters (wellFormed_wholeText n) hrest
  have hvalue : (wholeText n).value? false = some (.whole n) := by
    have hplain : (wholeText n).isPlain = true := rfl
    have hdigits : digitsValue (wholeText n).whole = n := digitsValue_decimal n
    simp [NumberText.value?, hplain, hdigits, hn]
  rw [characters_wholeText] at htext
  simp only [readNumber, htext, bind, Except.bind, hvalue]

/-! ### Values -/

/-- The decimal that a number text stands for: its digits, and the power of ten that they count. -/
def decimalValue (t : NumberText) : Nat × Int :=
  let fraction := t.fraction.getD []
  let exponent : Int := match t.exponent with
    | none => 0
    | some (negative, digits) => if negative then -digitsValue digits else digitsValue digits
  (digitsValue (t.whole ++ fraction), exponent - fraction.length)

/-- A number text is short if the arithmetic of floats is exact up to its last step: its digits and
its power of ten are exact as floats, and its exponent is taken as it is written. -/
structure IsShort (t : NumberText) : Prop where
  digits : (decimalValue t).1 < 2 ^ 53
  places : (decimalValue t).2.natAbs ≤ 22
  exponent : ∀ p ∈ t.exponent, digitsValue p.2 ≤ greatestExponent

section Values

variable {t : NumberText} {s : List Char}

/-- Digits whose value fits sixty-four bits are all kept. None of the values on the way is greater
than the last one, so the first digit that does not fit never comes. -/
theorem significand_eq {n : Nat} (h : Nat.ofDigitChars 10 s n < UInt64.size) :
    significand n s = (Nat.ofDigitChars 10 s n, 0) := by
  induction s generalizing n with
  | nil => rfl
  | cons c s ih =>
    rw [Nat.ofDigitChars_cons] at h
    have hfits : 10 * n + digitValue c < UInt64.size := Nat.lt_of_le_of_lt (le_ofDigitChars s _) h
    rw [significand, if_pos hfits, Nat.ofDigitChars_cons]
    exact ih h

/-- All digits of a short number text are kept, those behind the point as places of a negative power
of ten. -/
theorem kept_of_isShort (h : IsShort t) :
    t.kept = ((decimalValue t).1, -((t.fraction.getD []).length : Int)) := by
  have hall : Nat.ofDigitChars 10 (t.fraction.getD []) (digitsValue t.whole) = (decimalValue t).1 := by
    rw [decimalValue, digitsValue, digitsValue, Nat.ofDigitChars_append]
  have hfits : (decimalValue t).1 < UInt64.size := Nat.lt_trans h.digits (by decide)
  have hback := significand_eq (s := t.fraction.getD []) (n := digitsValue t.whole) (hall ▸ hfits)
  have hfront : significand 0 t.whole = (digitsValue t.whole, 0) :=
    significand_eq (Nat.lt_of_le_of_lt (le_ofDigitChars (t.fraction.getD []) _) (hall ▸ hfits))
  simp only [NumberText.kept, hfront, hback, hall]
  simp

/-- The magnitude of a short number text is its decimal in the arithmetic of floats. The exponent is
far from the bounds at which it is cut. -/
theorem magnitude?_of_isShort (h : IsShort t) :
    t.magnitude? = scaled? (decimalValue t).1 (decimalValue t).2 := by
  have hplaces := h.places
  have hexponent := h.exponent
  have hkept := kept_of_isShort h
  obtain ⟨whole, fraction, exponent⟩ := t
  simp only [NumberText.magnitude?, hkept]
  cases exponent with
  | none => simp [decimalValue]
  | some p =>
    obtain ⟨negative, digits⟩ := p
    have hcut : digitsValue digits ≤ greatestExponent := hexponent _ rfl
    simp only [decimalValue] at hplaces ⊢
    rw [if_pos hcut]
    congr 1
    -- Within the limits the exponent is not cut off on either side.
    cases negative
    · simp only [Bool.false_eq_true, if_false] at hplaces ⊢
      rw [saturated]
      omega
    · simp only [if_true] at hplaces ⊢
      rw [saturated]
      omega

end Values

/-! ### Decimals -/

/-- The number text of the decimal with these digits that is `point` places long before its point:
with the point in its place, or behind the first digit and with an exponent. -/
def written (digits : List Char) (point : Int) : NumberText :=
  if -5 < point ∧ point ≤ 16 then
    if point ≤ 0 then ⟨['0'], some (List.replicate point.natAbs '0' ++ digits), none⟩
    else if digits.length ≤ point.toNat then
      ⟨digits ++ List.replicate (point.toNat - digits.length) '0', some ['0'], none⟩
    else ⟨digits.take point.toNat, some (digits.drop point.toNat), none⟩
  else
    ⟨digits.take 1, if digits.drop 1 = [] then none else some (digits.drop 1),
      some (decide (point - 1 < 0), decimal (point - 1).natAbs)⟩

section Written

variable {digits : List Char} {point : Int}

/-- The number text of a decimal is the one that is written for it. Feeds
`characters_magnitudeText`, which says this of a float. -/
theorem characters_written :
    characters (written digits point)
      = if -5 < point ∧ point ≤ 16 then positional digits point
        else scientific digits (point - 1) := by
  unfold written
  split
  · unfold positional
    split
    · simp [characters, pointed, scaled]
    · split <;> simp [characters, pointed, scaled]
  · unfold scientific
    cases hdrop : digits.drop 1 with
    | nil => simp [characters, pointed, scaled]
    | cons d rest => simp [characters, pointed, scaled]

/-- The number text of a decimal is proper, if its digits are and do not begin with a zero. The
digits behind the point may be cut off the others, so each part of them has to be a run of its own.
-/
theorem wellFormed_written (hdigits : IsRun digits) (hhead : digits.head? ≠ some '0') :
    WellFormed (written digits point) := by
  have hzeros : ∀ n, ∀ c ∈ List.replicate n '0', c.isDigit = true := by
    intro n c hc
    rw [List.eq_of_mem_replicate hc]
    decide
  have hfront : ∀ n, 0 < n → IsRun (digits.take n) := by
    intro n hn
    refine ⟨?_, fun c hc => hdigits.2 c (List.mem_of_mem_take hc)⟩
    rw [ne_eq, List.take_eq_nil_iff, not_or]
    exact ⟨Nat.pos_iff_ne_zero.mp hn, hdigits.1⟩
  -- A front of the digits begins as they do.
  have hlead : ∀ n t, digits.take n = '0' :: t → t = [] := by
    intro n t ht
    obtain ⟨d, ds, rfl⟩ := List.exists_cons_of_ne_nil hdigits.1
    cases n with
    | zero => cases ht
    | succ n =>
      obtain ⟨rfl, -⟩ := List.cons.inj ht
      exact absurd rfl hhead
  have hback : ∀ n, digits.drop n ≠ [] → IsRun (digits.drop n) :=
    fun n hne => ⟨hne, fun c hc => hdigits.2 c (List.mem_of_mem_drop hc)⟩
  unfold written
  split
  · split
    · -- A zero stands alone in front of the point.
      exact {
        whole := ⟨List.cons_ne_nil _ _, hzeros 1⟩
        no_zero := fun t ht => (List.cons.inj ht).2.symm
        fraction := by
          rintro ds ⟨⟩
          refine ⟨List.append_ne_nil_of_right_ne_nil _ hdigits.1, ?_⟩
          intro c hc
          exact (List.mem_append.mp hc).elim (hzeros _ c) (hdigits.2 c)
        exponent := nofun }
    · split
      · exact {
          whole := hdigits.append (hzeros _)
          no_zero := by
            intro t ht
            obtain ⟨d, ds, rfl⟩ := List.exists_cons_of_ne_nil hdigits.1
            obtain ⟨rfl, -⟩ := List.cons.inj ht
            exact absurd rfl hhead
          fraction := by
            rintro ds ⟨⟩
            exact ⟨List.cons_ne_nil _ _, hzeros 1⟩
          exponent := nofun }
      · next hpoint hlength =>
        exact {
          whole := hfront _ (by omega)
          no_zero := hlead _
          fraction := by
            rintro ds ⟨⟩
            refine hback _ ?_
            rw [ne_eq, List.drop_eq_nil_iff]
            exact hlength
          exponent := nofun }
  · exact {
      whole := hfront 1 (by decide)
      no_zero := hlead 1
      fraction := by
        intro ds hds
        split at hds
        · cases hds
        · next hne =>
          cases hds
          exact hback 1 hne
      exponent := by
        rintro p ⟨⟩
        exact isRun_decimal _ }

/-- Zeros in front of digits make no difference to their value, as in a small decimal that is
written with zeros behind its point. -/
theorem digitsValue_zeros_append (n : Nat) (s : List Char) :
    digitsValue (List.replicate n '0' ++ s) = digitsValue s := by
  simp [digitsValue, Nat.ofDigitChars_append]

/-- Zeros behind digits are places: each multiplies the value by ten. So a decimal may be written
with its point anywhere. -/
theorem digitsValue_append_zeros (s : List Char) (n : Nat) :
    digitsValue (s ++ List.replicate n '0') = digitsValue s * 10 ^ n := by
  simp [digitsValue, Nat.ofDigitChars_append, Nat.mul_comm]

/-- The number text of a decimal stands for it, up to zeros at the end of its digits. -/
theorem decimalValue_written (hdigits : digits ≠ []) (point : Int) :
    ∃ zeros : Nat, decimalValue (written digits point)
      = (digitsValue digits * 10 ^ zeros, point - digits.length - zeros) := by
  have hpos : 0 < digits.length := List.length_pos_iff.mpr hdigits
  unfold written
  split
  · split
    · next hpoint =>
      have hvalue := digitsValue_zeros_append (point.natAbs + 1) digits
      rw [List.replicate_succ, List.cons_append] at hvalue
      refine ⟨0, Prod.ext ?_ ?_⟩
      · simpa [decimalValue] using hvalue
      · simp only [decimalValue, Option.getD_some, List.length_append,
          List.length_replicate]
        omega
    · split
      · next hpoint hlength =>
        -- One zero more stands behind the point.
        have hvalue := digitsValue_append_zeros digits (point.toNat - digits.length + 1)
        rw [List.replicate_succ', ← List.append_assoc] at hvalue
        refine ⟨point.toNat - digits.length + 1, Prod.ext hvalue ?_⟩
        simp only [decimalValue, Option.getD_some, List.length_singleton]
        omega
      · next hpoint hlength =>
        refine ⟨0, Prod.ext ?_ ?_⟩
        · simp [decimalValue]
        · simp only [decimalValue, Option.getD_some, List.length_drop]
          omega
  · -- With an exponent the point stands behind the first digit.
    have hfraction : (if digits.drop 1 = [] then none else some (digits.drop 1)).getD []
        = digits.drop 1 := by
      split
      · next hnone => rw [hnone, Option.getD_none]
      · rfl
    have hscale : (if decide (point - 1 < 0) = true then
        -(digitsValue (decimal (point - 1).natAbs) : Int)
        else digitsValue (decimal (point - 1).natAbs)) = point - 1 := by
      rw [digitsValue_decimal]
      split
      · next hneg =>
        have hneg : point - 1 < 0 := of_decide_eq_true hneg
        omega
      · next hneg =>
        have hneg : ¬point - 1 < 0 := fun h => hneg (decide_eq_true h)
        omega
    refine ⟨0, Prod.ext ?_ ?_⟩
    · simp only [decimalValue, hfraction, List.take_append_drop]
      simp
    · simp only [decimalValue, hfraction, hscale, List.length_drop]
      omega

end Written

end EchoBench.Proofs.Json
