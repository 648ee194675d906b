import EchoBench.Config.Lookup
import EchoBench.Proofs.Text.Numeral

/-!
# `EchoBench.Proofs.Config.Acceptance`: which values of a setting are numbers

A setting that is a number is read in two ways, with a default (`Lookup.numberOr`) and without one
(`Lookup.number?`). `accepted_iff` says of both, for every lookup and all limits, which values they
take in silence, which number they take them for, and what they say of each of the others.

A value is trimmed first. What matters of the rest is the run of digits that it begins with, behind
one plus sign at most (`digitRun`), and that nothing follows it. So the fault of a value that is not
taken is found without reading it from left to right: it is too large wherever its digits are, and
it has an invalid digit wherever they are not and nothing is wrong with it as a zero.

The limits of the settings in use are `Limits.bits16`, `Limits.bits64` and `Limits.positive64`.
-/

set_option autoImplicit false

namespace EchoBench.Proofs.Config

open EchoBench.Config
open EchoBench.Text
open EchoBench.Proofs.Text

/-! ### One text -/

/-- A text is digits behind one plus sign at most, and their value is within limits. -/
def Accepted (limits : Limits) (s : List Char) : Prop :=
  digitRun s ≠ [] ∧ afterRun s = [] ∧ limits.Admits (runValue s)

/-- A text is digits that make zero, and zero is not accepted. The digits as such are in order, so
the fault is in the value and is told after everything that is wrong with the text. -/
def IsBarredZero (limits : Limits) (s : List Char) : Prop :=
  digitRun s ≠ [] ∧ afterRun s = [] ∧ runValue s = 0 ∧ limits.zeroAllowed = false

section Texts

variable {limits : Limits} {s : List Char}

/-- The wordings of faults tell them apart, so a statement about the text of a warning is one about
the fault behind it. -/
theorem message_injective : Function.Injective NumeralFault.message := by
  intro a b
  cases a <;> cases b <;> decide

/-- A text that is accepted is read, and its value is that of its run of digits: the limits that
`Accepted` asks for are the ones that the reader checks on its way, so none of its faults is met. -/
theorem readNumeral_of_accepted (h : Accepted limits s) :
    readNumeral limits s = .ok (runValue s) := by
  obtain ⟨hrun, hrest, hle, hpos⟩ := h
  have hzero : ¬(runValue s = 0 ∧ limits.zeroAllowed = false) := by
    rintro ⟨hvalue, hbarred⟩
    rcases hpos with hallowed | hne
    · rw [hallowed] at hbarred
      cases hbarred
    · exact hne hvalue
  rw [readNumeral_eq, if_neg (Nat.not_lt.mpr hle), if_neg (not_or.mpr ⟨hrun, not_not.mpr hrest⟩),
    if_neg hzero]

/-- A text that is not accepted has a fault. It is too large if its digits are, whatever follows
them, and a zero that is barred if it is one; otherwise a digit is invalid. -/
theorem readNumeral_of_not_accepted (h : ¬Accepted limits s) :
    ∃ fault, readNumeral limits s = .error fault ∧
      (fault = .tooLarge ↔ limits.greatest < runValue s) ∧
      (fault = .zero ↔ IsBarredZero limits s) ∧
      (fault = .invalidDigit ↔ ¬limits.greatest < runValue s ∧ ¬IsBarredZero limits s) := by
  rw [readNumeral_eq]
  by_cases hlarge : limits.greatest < runValue s
  · -- A value beyond the limit is no zero, so only one of the three faults can be meant.
    have hzero : ¬IsBarredZero limits s := fun hzero => by
      have hvalue := hzero.2.2.1
      omega
    exact ⟨.tooLarge, if_pos hlarge, by simp [hlarge], by simp [hzero], by simp [hlarge]⟩
  · by_cases hform : digitRun s = [] ∨ afterRun s ≠ []
    · have hzero : ¬IsBarredZero limits s := by
        rintro ⟨hrun, hrest, -⟩
        exact hform.elim hrun fun hmore => hmore hrest
      refine ⟨.invalidDigit, ?_, by simp [hlarge], by simp [hzero], by simp [hlarge, hzero]⟩
      rw [if_neg hlarge, if_pos hform]
    · -- The text is digits, and their value is not beyond the limit. So it is a zero.
      obtain ⟨hrun, hrest⟩ := not_or.mp hform
      have hrest : afterRun s = [] := not_not.mp hrest
      have hbarred : runValue s = 0 ∧ limits.zeroAllowed = false := by
        by_contra hfine
        refine h ⟨hrun, hrest, Nat.le_of_not_lt hlarge, ?_⟩
        cases hallowed : limits.zeroAllowed with
        | true => exact .inl rfl
        | false => exact .inr fun hvalue => hfine ⟨hvalue, hallowed⟩
      have hzero : IsBarredZero limits s := ⟨hrun, hrest, hbarred⟩
      refine ⟨.zero, ?_, by simp [hlarge], by simp [hzero], by simp [hzero]⟩
      rw [if_neg hlarge, if_neg hform, if_pos hbarred]

end Texts

/-! ### One setting -/

section Settings

variable {l : Lookup} {name value : String}

/-- A setting has no value where it is unset, or where nothing is left of its value. -/
theorem get?_eq_none_iff :
    l.get? name = none ↔ ∀ value, l name = some value → trim value.toList = [] := by
  rw [Lookup.get?, Option.filter_eq_none_iff]
  simp

/-- A value that is more than padding counts as set. It is handed on as it stands, padding and all,
so that a complaint about it can quote what the environment holds. -/
theorem get?_of_trim_ne (hvalue : l name = some value) (htrim : trim value.toList ≠ []) :
    l.get? name = some value := by
  simp [Lookup.get?, hvalue, htrim]

/-- A value that is left makes a number or one warning, with a default and without. -/
theorem numberOr_number?_of_get? (limits : Limits) (fallback : Nat)
    (hget : l.get? name = some value) :
    (∀ n, readNumeral limits (trim value.toList) = .ok n →
      l.numberOr limits name fallback = .quiet n ∧ l.number? limits name = .quiet (some n)) ∧
    ∀ fault, readNumeral limits (trim value.toList) = .error fault →
      l.numberOr limits name fallback = ⟨fallback, [⟨name, value, some fallback, fault⟩]⟩ ∧
        l.number? limits name = ⟨none, [⟨name, value, none, fault⟩]⟩ := by
  constructor
  · intro n hread
    simp [Lookup.numberOr, Lookup.number?, hget, hread]
  · intro fault hread
    simp [Lookup.numberOr, Lookup.number?, hget, hread]

/-- What a setting that is a number gives, with a default and without one. Where the setting is
unset, or nothing is left of its value when that is trimmed, the default is given in silence;
without a default, nothing is given in silence exactly there. Of any other value, let the digits be
those that it begins with, behind one plus sign at most. A number is given in silence exactly where
there are digits, nothing follows them, and their value is within limits; and it is their value.
Otherwise there is one warning, which names the setting and the value as it was given. It says that
the number is too large exactly where the value of the digits is, that it would be zero exactly
where the digits are a zero that is not accepted, and that a digit is invalid in all other cases. So
a number within limits may stand behind zeros and a plus sign, with white space around it. -/
theorem accepted_iff (l : Lookup) (limits : Limits) (name : String) (fallback : Nat) :
    let read := l.numberOr limits name fallback
    let read? := l.number? limits name
    (read? = .quiet none ↔ ∀ value, l name = some value → trim value.toList = []) ∧
    ((∀ value, l name = some value → trim value.toList = []) → read = .quiet fallback) ∧
    (∀ value, l name = some value → trim value.toList ≠ [] →
      let s := trim value.toList
      (read.warnings = [] ↔ Accepted limits s) ∧
      (read?.warnings = [] ↔ Accepted limits s) ∧
      (Accepted limits s → read = .quiet (runValue s) ∧ read? = .quiet (some (runValue s))) ∧
      (¬Accepted limits s → ∃ fault : NumeralFault,
        read = ⟨fallback, [⟨name, value, some fallback, fault⟩]⟩ ∧
        read? = ⟨none, [⟨name, value, none, fault⟩]⟩ ∧
        (fault.message = "number too large to fit in target type" ↔
          limits.greatest < runValue s) ∧
        (fault.message = "number would be zero for non-zero type" ↔ IsBarredZero limits s) ∧
        (fault.message = "invalid digit found in string" ↔
          ¬limits.greatest < runValue s ∧ ¬IsBarredZero limits s))) ∧
    (∀ (n zeros : Nat) (plus : Bool) (front back : List Char), limits.Admits n →
      (∀ c ∈ front, isBlank c = true) → (∀ c ∈ back, isBlank c = true) →
      l name = some (String.ofList (front ++ padded plus zeros n ++ back)) →
      read = .quiet n ∧ read? = .quiet (some n)) := by
  intro read read?
  refine ⟨?_, ?_, ?_, ?_⟩
  · rw [← get?_eq_none_iff]
    constructor
    · intro hquiet
      by_contra hget
      obtain ⟨value, hget⟩ := Option.ne_none_iff_exists'.mp hget
      obtain ⟨hok, herror⟩ := numberOr_number?_of_get? limits fallback hget
      -- Any value at all makes a number or a warning.
      cases hread : readNumeral limits (trim value.toList) with
      | ok n => cases (hok n hread).2.symm.trans hquiet
      | error fault => cases (herror fault hread).2.symm.trans hquiet
    · intro hget
      simp [read?, Lookup.number?, hget]
  · rw [← get?_eq_none_iff]
    intro hget
    simp [read, Lookup.numberOr, hget]
  · intro value hvalue htrim s
    obtain ⟨hok, herror⟩ :=
      numberOr_number?_of_get? limits fallback (get?_of_trim_ne hvalue htrim)
    by_cases h : Accepted limits s
    · obtain ⟨hread, hread?⟩ := hok _ (readNumeral_of_accepted h)
      exact ⟨iff_of_true (congrArg Reported.warnings hread) h,
        iff_of_true (congrArg Reported.warnings hread?) h, fun _ => ⟨hread, hread?⟩, absurd h⟩
    · obtain ⟨fault, hfault, hlarge, hzero, hdigit⟩ := readNumeral_of_not_accepted h
      obtain ⟨hread, hread?⟩ := herror fault hfault
      have hloud : read.warnings ≠ [] := by simp [read, hread]
      have hloud? : read?.warnings ≠ [] := by simp [read?, hread?]
      refine ⟨iff_of_false hloud h, iff_of_false hloud? h, fun haccepted => absurd haccepted h,
        fun _ => ⟨fault, hread, hread?, ?_, ?_, ?_⟩⟩
      · exact (message_injective.eq_iff (b := .tooLarge)).trans hlarge
      · exact (message_injective.eq_iff (b := .zero)).trans hzero
      · exact (message_injective.eq_iff (b := .invalidDigit)).trans hdigit
  · intro n zeros plus front back hn hfront hback hvalue
    have htrim : trim (String.ofList (front ++ padded plus zeros n ++ back)).toList
        = padded plus zeros n := by
      rw [String.toList_ofList, trim_padded hfront hback isBlank_padded]
    have hne : padded plus zeros n ≠ [] :=
      List.append_ne_nil_of_right_ne_nil _
        (List.append_ne_nil_of_right_ne_nil _ Nat.toDigits_ne_nil)
    have hget : l.get? name = some _ := get?_of_trim_ne hvalue (by rwa [htrim])
    refine (numberOr_number?_of_get? limits fallback hget).1 n ?_
    rw [htrim]
    exact readNumeral_padded hn

end Settings

end EchoBench.Proofs.Config
