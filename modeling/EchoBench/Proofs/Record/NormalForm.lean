import EchoBench.Proofs.Record.Codec

/-!
# `EchoBench.Proofs.Record.NormalForm`: the line of a record that was read

A record may be written in many ways, and is written on a line in one. A text that is read as a
record has the line of that record for its normal form. `ofText_normalForm` says that both times of
such a record are finite, and that the normal form is read as the same record, so that it is its own
normal form.

No reader gives a time that is not finite, whatever number the text has in its place. Digits alone
are a whole number of sixty-four bits, and those are far below the greatest float. All other numbers
are scaled by a power of ten, and what that gives is finite (`isFinite_of_scaled?`), or a zero where
the exponent is beyond thirty-two bits; a product that is infinite is refused. From there it is
carried through the values that have been read so far (`AllWritable`), for members in any order and
for a list.

That the line is read as the same record takes the assumption that a finite time is read back from
its text (`TimesReadBack`), and no more than that.
-/

set_option autoImplicit false

namespace EchoBench.Proofs.Record

open EchoBench.Json
open EchoBench.Proofs.Decimal (isFinite_of_scaled? isFinite_ofWhole isFinite_neg)
open EchoBench.Proofs.Json

/-- The line of the record that a text is read as. A text that is not read as a record has none, and
its fault is passed on. -/
def normalForm (text : String) : Except Fault String :=
  (TaskRecord.ofText text).map TaskRecord.line

/-! ### Times -/

section Times

variable {s rest : List Char}

/-- The magnitude of a number text is finite, if it has a value. Of its three ways out one is a
zero, and the others scale the digits. -/
theorem isFinite_of_magnitude? {t : NumberText} {x : Float} (h : t.magnitude? = some x) :
    x.isFinite = true := by
  simp only [NumberText.magnitude?] at h
  split at h
  · exact isFinite_of_scaled? h
  · split at h
    · exact isFinite_of_scaled? h
    · split at h
      · cases h
        decide +kernel
      · cases h

/-- A number that was read is finite as a float, by whichever way it was read: whole numbers fit,
and the scaled ones are tested before they are given out. -/
theorem isFinite_of_value? {t : NumberText} {negative : Bool} {n : Number}
    (h : t.value? negative = some n) : n.toFloat.isFinite = true := by
  -- A whole number that is read fits sixty-four bits, which is far below the greatest float.
  have hwhole : ∀ n, (Number.toFloat (.whole n)).isFinite = true := by
    intro n
    rw [Number.toFloat]
    split
    · exact isFinite_neg (isFinite_ofWhole n.natAbs)
    · exact isFinite_ofWhole n.natAbs
  simp only [NumberText.value?] at h
  split at h
  · cases h
    exact hwhole _
  · split at h
    · cases h
      exact hwhole _
    · obtain ⟨x, hx, rfl⟩ := Option.map_eq_some_iff.mp h
      have hfinite := isFinite_of_magnitude? hx
      show (if negative then -x else x).isFinite = true
      split
      · exact isFinite_neg hfinite
      · exact hfinite

/-- A number that is read is finite as a float. Its minus sign has been taken before, so the sign is
known to the reader and the digits begin at once. -/
theorem isFinite_of_readNumber {negative : Bool} {n : Number}
    (h : readNumber negative s = .ok (n, rest)) : n.toFloat.isFinite = true := by
  obtain ⟨⟨t, rest'⟩, -, hvalue⟩ := bind_eq_ok_iff.mp h
  dsimp only at hvalue
  split at hvalue
  · next hn =>
    cases hvalue
    exact isFinite_of_value? hn
  · cases hvalue

/-- A time that was read is finite: of each of the ways in which the reader comes to a value, none
gives an infinite one. -/
theorem isFinite_of_readFloat {x : Float} (h : readFloat s = .ok (x, rest)) :
    x.isFinite = true := by
  rw [readFloat] at h
  split at h
  · cases h
  · next n rest hnumber =>
    cases h
    rw [readAnyNumber] at hnumber
    split at hnumber
    · exact isFinite_of_readNumber hnumber
    · split at hnumber
      · split at hnumber
        · exact isFinite_of_readNumber hnumber
        · cases hnumber
      · cases hnumber

/-- Whatever was read is written as a value of its type. For all fields but the two times there is
nothing to show. -/
theorem isWritable_of_read {f : Field} {v : f.Value} (h : f.read s = .ok (v, rest)) :
    IsWritable f v := by
  cases f with
  | totalMs | averageMs => exact isFinite_of_readFloat h
  | taskId | host | port | sent | received | connected | errors => trivial

end Times

/-! ### Records -/

/-- All values that have been read so far are written as values of their types. This is the
invariant of the draft that the readers of members and items fill. -/
def AllWritable (d : Draft) : Prop :=
  ∀ f v, d f = some v → IsWritable f v

section Records

variable {d d' : Draft} {s rest : List Char}

/-- A draft without values has none that is not finite; the invariant starts here, for objects and
lists alike. -/
theorem allWritable_empty : AllWritable .empty := nofun

/-- A draft keeps the invariant when it gets a value that has it. It is the only way in which a
draft changes, for members and for items. -/
theorem AllWritable.set (hd : AllWritable d) {f : Field} {v : f.Value} (hv : IsWritable f v) :
    AllWritable (d.set f v) := by
  intro g w hw
  by_cases hg : g = f
  · subst hg
    rw [Draft.set_self] at hw
    cases hw
    exact hv
  · rw [Draft.set_of_ne d v hg] at hw
    exact hd g w hw

/-- A member keeps the invariant: it sets the field that it names, or no field if it names none. -/
theorem AllWritable.readNamed (hd : AllWritable d) {fuel : Nat} {name : String}
    (h : readNamed fuel name d s = .ok (d', rest)) : AllWritable d' := by
  rw [EchoBench.readNamed] at h
  split at h
  · split at h
    · cases h
    · obtain ⟨s', -, h⟩ := bind_eq_ok_iff.mp h
      obtain ⟨⟨v, rest'⟩, hread, h⟩ := bind_eq_ok_iff.mp h
      cases h
      exact hd.set (isWritable_of_read hread)
  · obtain ⟨s', -, h⟩ := bind_eq_ok_iff.mp h
    obtain ⟨rest', -, h⟩ := bind_eq_ok_iff.mp h
    cases h
    exact hd

/-- The members of an object keep the invariant, by induction on the fuel that each of them takes.
-/
theorem AllWritable.readMembers (hd : AllWritable d) {fuel : Nat}
    (h : readMembers fuel d s = .ok (d', rest)) : AllWritable d' := by
  induction fuel generalizing d s with
  | zero => cases h
  | succ fuel ih =>
    obtain ⟨⟨name, s₁⟩, -, h⟩ := bind_eq_ok_iff.mp h
    obtain ⟨⟨d₁, s₂⟩, hnamed, h⟩ := bind_eq_ok_iff.mp h
    have hd₁ := hd.readNamed hnamed
    dsimp only at h
    -- The object ends behind the member, or goes on with the next one.
    split at h
    · cases h
    · cases h
      exact hd₁
    · split at h
      · cases h
      · exact ih hd₁ h
      · cases h
    · cases h

/-- The items of a list keep the invariant, by induction on the fields that they are for. -/
theorem AllWritable.readItems (hd : AllWritable d) {fields : List Field} {count : Nat}
    (h : readItems fields count d s = .ok (d', rest)) : AllWritable d' := by
  induction fields generalizing count d s with
  | nil =>
    cases h
    exact hd
  | cons f fields ih =>
    obtain ⟨s', -, h⟩ := bind_eq_ok_iff.mp h
    obtain ⟨⟨v, rest'⟩, hread, h⟩ := bind_eq_ok_iff.mp h
    exact ih (hd.set (isWritable_of_read hread)) h

/-- A record that an object is read as comes from a draft with the invariant. -/
theorem AllWritable.of_readObject {r : TaskRecord} (h : readObject s = .ok (r, rest)) :
    ∃ d, AllWritable d ∧ d.record = .ok r := by
  rw [readObject] at h
  split at h
  · cases h
  · obtain ⟨r, hrecord, h⟩ := map_eq_ok_iff.mp h
    cases h
    exact ⟨.empty, allWritable_empty, hrecord⟩
  · obtain ⟨⟨d, s'⟩, hmembers, h⟩ := bind_eq_ok_iff.mp h
    obtain ⟨r, hrecord, h⟩ := bind_eq_ok_iff.mp h
    cases h
    exact ⟨d, allWritable_empty.readMembers hmembers, hrecord⟩
  · cases h

/-- A record that a list is read as comes from a draft with the invariant. -/
theorem AllWritable.of_readList {r : TaskRecord} (h : readList s = .ok (r, rest)) :
    ∃ d, AllWritable d ∧ d.record = .ok r := by
  obtain ⟨⟨d, s'⟩, hitems, h⟩ := bind_eq_ok_iff.mp h
  obtain ⟨r', hrecord, h⟩ := bind_eq_ok_iff.mp h
  split at h
  · cases h
  · cases h
    exact ⟨d, allWritable_empty.readItems hitems, hrecord⟩
  · cases h

/-- The times of a record that was read are finite. So such a record can be written again, and its
line is never one with a `null` in it. -/
theorem isFinite_of_ofText {text : String} {r : TaskRecord} (h : TaskRecord.ofText text = .ok r) :
    r.totalMs.isFinite = true ∧ r.averageMs.isFinite = true := by
  obtain ⟨⟨r', s⟩, hread, hend⟩ := bind_eq_ok_iff.mp h
  obtain rfl : r' = r := by
    dsimp only at hend
    split at hend <;> cases hend
    rfl
  have hdraft : ∃ d, AllWritable d ∧ d.record = .ok r' := by
    rw [readRecord] at hread
    split at hread
    · exact AllWritable.of_readList hread
    · exact AllWritable.of_readObject hread
    · cases hread
  obtain ⟨d, hd, hrecord⟩ := hdraft
  exact ⟨hd .totalMs _ (get_of_record hrecord .totalMs),
    hd .averageMs _ (get_of_record hrecord .averageMs)⟩

end Records

/-- A text that is read as a record has a normal form, and no time of that record is infinite or
undefined. If a finite time is read back from its text, the normal form is read as the same record,
and is its own normal form. -/
theorem ofText_normalForm {text : String} {r : TaskRecord} (h : TaskRecord.ofText text = .ok r) :
    r.totalMs.isFinite = true ∧ r.averageMs.isFinite = true ∧ normalForm text = .ok r.line ∧
      (TimesReadBack r → TaskRecord.ofText r.line = .ok r ∧ normalForm r.line = .ok r.line) := by
  obtain ⟨htotal, haverage⟩ := isFinite_of_ofText h
  refine ⟨htotal, haverage, ?_, ?_⟩
  · rw [normalForm, h]
    rfl
  · intro hback
    have hread := ofText_line_of_readsBack ⟨hback.1 htotal, hback.2 haverage⟩
    refine ⟨hread, ?_⟩
    rw [normalForm, hread]
    rfl

/-- A record as a list, with an escape in a text, an exponent in one time and digits alone for the
other. -/
def listed : String :=
  "[\"pod-\\u0061\", \"h\", 80, 1, 1, true, 12E-1, [ ], 2]"

/-- The record that `listed` is, with the values in the order in which the list has them. -/
def listedRecord : TaskRecord where
  taskId := "pod-a"
  host := "h"
  port := 80
  sent := 1
  received := 1
  connected := true
  totalMs := 1.2
  errors := []
  averageMs := 2.0

/-- A record that is given as a list, with a number in a form that is never written, is read; its
line is another text, and reading and writing that line changes nothing any more. -/
theorem ofText_normalForm_listed :
    TaskRecord.ofText listed = .ok listedRecord ∧
      listedRecord.totalMs.isFinite = true ∧ listedRecord.averageMs.isFinite = true ∧
      normalForm listed = .ok listedRecord.line ∧
      TaskRecord.ofText listedRecord.line = .ok listedRecord ∧
      normalForm listedRecord.line = .ok listedRecord.line := by
  have hread : TaskRecord.ofText listed = .ok listedRecord := by decide +kernel
  have hback : TimesReadBack listedRecord := by decide +kernel
  obtain ⟨htotal, haverage, hnormal, hagain⟩ := ofText_normalForm hread
  exact ⟨hread, htotal, haverage, hnormal, hagain hback⟩

end EchoBench.Proofs.Record
