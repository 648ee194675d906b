import EchoBench.Record.Line
import EchoBench.Text.Character

/-!
# `EchoBench.Proofs.Record.Line`: a line is one line

The line of a record ends with a line break, and that is the only one in it. The break is a
character of its own in the written form, and no text, number or sign of a record is written with
one: a text has it escaped, and the rest has digits, letters and signs (`newline_notMem_json`).

In bytes the same holds, for no other character has the byte of the line break in it
(`ten_mem_utf8EncodeChar_iff`). `exists_utf8_line_eq` gives the bytes of a line as those before the
break, which do not have its byte, and the break.
-/

set_option autoImplicit false

namespace EchoBench.Proofs.Record

open EchoBench.Json
open EchoBench.Text

/-! ### Characters -/

section Characters

variable {s : List Char}

/-- No digit is a newline, so whatever is written in digits alone cannot break a line. -/
theorem newline_notMem_of_isDigit (h : ∀ c ∈ s, c.isDigit = true) : '\n' ∉ s :=
  fun hmem => absurd (h _ hmem) (by decide)

/-- The text of a whole number has digits only; the counts of a record are written so. -/
theorem newline_notMem_decimal (n : Nat) : '\n' ∉ decimal n :=
  newline_notMem_of_isDigit isDigit_decimal

/-- The digits of an escape are digits, or letters up to the sixth, and a newline is neither. A line
break in a text of a record is written by such an escape and is gone from the line. -/
theorem newline_notMem_hexPlaces (places n : Nat) : '\n' ∉ hexPlaces places n := by
  have hdigit : ∀ m < 16, hexDigit m ≠ '\n' := by decide
  induction places generalizing n with
  | zero => simp [hexPlaces]
  | succ places ih =>
    simp only [hexPlaces, List.mem_append, List.mem_singleton, not_or]
    exact ⟨ih _, (hdigit _ (Nat.mod_lt _ (by decide))).symm⟩

/-- A line break has a short escape, and every other character stays a character that is none. -/
theorem newline_notMem_escape (c : Char) : '\n' ∉ escape c := by
  have hletters : ∀ pair ∈ shortEscapes, pair.1 ≠ '\n' := by decide
  have hbreak : (shortEscapes.find? (·.2 = '\n')).isSome = true := by decide
  simp only [escape]
  split
  · next letter _ hfind =>
    have hletter : letter ≠ '\n' := hletters _ (List.mem_of_find?_eq_some hfind)
    simp [hletter.symm]
  · next hfind =>
    split
    · simp [newline_notMem_hexPlaces]
    · have hc : c ≠ '\n' := by
        rintro rfl
        simp [hfind] at hbreak
      simp [hc.symm]

/-- A text in quotes has no newline, even if the text has one: escaping turns it into two
characters. This is the only place where the contents of a record could have put one. -/
theorem newline_notMem_quote (s : List Char) : '\n' ∉ quote s := by
  simp [quote, newline_notMem_escape]

/-- Putting a point into a run of digits, or zeros around it, adds no newline. -/
theorem newline_notMem_positional (h : '\n' ∉ s) (point : Int) : '\n' ∉ positional s point := by
  have htake : '\n' ∉ s.take point.toNat := mt List.mem_of_mem_take h
  have hdrop : '\n' ∉ s.drop point.toNat := mt List.mem_of_mem_drop h
  simp only [positional]
  split
  · simp [h]
  · split
    · simp [h]
    · simp [htake, hdrop]

/-- Neither does an exponent behind the digits bring one in: a letter, a sign and digits again. -/
theorem newline_notMem_scientific (h : '\n' ∉ s) (exponent : Int) :
    '\n' ∉ scientific s exponent := by
  have htake : '\n' ∉ s.take 1 := mt List.mem_of_mem_take h
  have hdrop : '\n' ∉ s.drop 1 := mt List.mem_of_mem_drop h
  have hsign : '\n' ≠ (if exponent < 0 then '-' else '+') := by split <;> decide
  simp only [scientific]
  split <;> simp_all [newline_notMem_decimal]

/-- The text of a float has no newline, whichever of its forms it takes. -/
theorem newline_notMem_writeFloat (x : Float) : '\n' ∉ writeFloat x := by
  have hmagnitude : '\n' ∉ writeMagnitude x := by
    simp only [writeMagnitude]
    split
    · decide
    · split
      · exact newline_notMem_positional (newline_notMem_decimal _) _
      · exact newline_notMem_scientific (newline_notMem_decimal _) _
  simp only [writeFloat]
  split
  · split
    · simpa using hmagnitude
    · exact hmagnitude
  · decide

/-- Items without a newline have none when commas are put between them, by induction on the items;
lists of texts and the members of a record are both of this form. -/
theorem newline_notMem_commaSeparated {items : List (List Char)} (h : ∀ item ∈ items, '\n' ∉ item) :
    '\n' ∉ commaSeparated items := by
  induction items with
  | nil => simp [commaSeparated]
  | cons item items ih =>
    have hitem : '\n' ∉ item := h item List.mem_cons_self
    have hrest := ih fun i hi => h i (List.mem_cons_of_mem _ hi)
    cases items with
    | nil => simpa [commaSeparated, List.intercalate] using hitem
    | cons next items => simp_all [commaSeparated, List.intercalate]

/-- No value of a record has a newline in its written form. One case for each type of value; a list
of texts has its items in quotes. -/
theorem newline_notMem_write : ∀ (f : Field) (v : f.Value), '\n' ∉ f.write v
  | .taskId, v | .host, v => newline_notMem_quote _
  | .port, v | .sent, v | .received, v => newline_notMem_decimal _
  | .connected, true | .connected, false => by simp [Field.write]
  | .totalMs, v | .averageMs, v => newline_notMem_writeFloat v
  | .errors, v => by
    have herrors : '\n' ∉ commaSeparated (v.map fun s => quote s.toList) :=
      newline_notMem_commaSeparated (by simp [newline_notMem_quote])
    simpa [Field.write] using herrors

/-- The written form of a record has no line break. What is written between quotes is escaped, and
everything else is digits, signs and fixed words. -/
theorem newline_notMem_json (r : TaskRecord) : '\n' ∉ r.json := by
  have hmembers : '\n' ∉ commaSeparated (Field.all.map r.member) := by
    refine newline_notMem_commaSeparated ?_
    simp [TaskRecord.member, newline_notMem_quote, newline_notMem_write]
  simpa [TaskRecord.json] using hmembers

end Characters

/-! ### Bytes -/

/-- Only the line break has its byte in it: in UTF-8 a byte below 128 stands for its own character
and is a part of no other. -/
theorem ten_mem_utf8EncodeChar_iff (c : Char) : 10 ∈ String.utf8EncodeChar c ↔ c = '\n' := by
  constructor
  · intro h
    have hten : (10 : UInt8).toNat = 10 := rfl
    have hval : c.val.toNat = 10 := by
      -- The only byte of a short form is the character, and those of a longer form are above 127.
      simp only [String.utf8EncodeChar] at h
      repeat' split at h
      all_goals
        simp only [List.mem_cons, List.not_mem_nil, or_false, ← UInt8.toNat_inj,
          UInt8.toNat_ofNat', hten] at h
        omega
    exact Char.ext (UInt32.toNat_inj.mp hval)
  · rintro rfl
    decide

/-- The bytes of a line are those of the record and that of the line break. -/
theorem utf8_line (r : TaskRecord) : utf8 r.line = utf8 (String.ofList r.json) ++ [10] := by
  simp only [utf8, TaskRecord.line, String.toList_ofList, List.flatMap_append]
  rfl

/-- The bytes of a record have no line break either, since in UTF-8 the byte of a newline stands for
nothing else (`ten_mem_utf8EncodeChar_iff`). -/
theorem ten_notMem_utf8_json (r : TaskRecord) : 10 ∉ utf8 (String.ofList r.json) := by
  simp only [utf8, String.toList_ofList, List.mem_flatMap, ten_mem_utf8EncodeChar_iff]
  rintro ⟨c, hmem, rfl⟩
  exact newline_notMem_json r hmem

/-- The bytes of a line: some without the byte of the line break, and the line break. -/
theorem exists_utf8_line_eq (r : TaskRecord) :
    ∃ body : List UInt8, utf8 r.line = body ++ [10] ∧ 10 ∉ body :=
  ⟨_, utf8_line r, ten_notMem_utf8_json r⟩

/-- A line is not empty, for its break is there. So a call that has written nothing has not written
its line. -/
theorem utf8_line_ne_nil (r : TaskRecord) : utf8 r.line ≠ [] := by
  obtain ⟨body, hline, -⟩ := exists_utf8_line_eq r
  simp [hline]

end EchoBench.Proofs.Record
