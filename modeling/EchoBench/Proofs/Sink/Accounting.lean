import EchoBench.Proofs.Record.Line
import EchoBench.Sink.JsonLines

/-!
# `EchoBench.Proofs.Sink.Accounting`: what a sink of lines leaves in its writer

A call gives a line to the writer and then asks it to pass on what it has. Each of the two can fail
and can crash, and the writer can take a line in pieces, so a line can be cut. `Passed` lists what
one call can do: it is refused, or it is cut in its line, or it comes to the end of the line and to
the one flush behind it. `passed_emit` shows that this is all.

The bytes that a call adds to the output are its part (`part`). Over a list of records nothing else
comes into the output (`output_emitAll`), a flush is asked for once for each part that is a whole
line (`flushCalls_emitAll`), and a call finds the sink open unless a call before it crashed
(`poisoned_sinkAfter`). `passed_getElem?` takes `Passed` to every call of the run, and
`accounted_emitAll` says it all of a fresh sink.
-/

set_option autoImplicit false

namespace EchoBench.Proofs.Sink

open EchoBench.Proofs.Record (utf8_line_ne_nil)
open EchoBench.Text (utf8)

/-- What a call answers where its last step ended so: the error that the writer gave, or the crash
that came out of it. -/
def answer : Writer.Ending → Outcome
  | .done => .ok
  | .failed cause => .failed (.io cause)
  | .crashed text => .crashed text

/-- What one call with a line does: the bytes that it adds to the output, its answer and the sink
that it leaves. -/
inductive Passed (before : JsonLines) (line : List UInt8) : List UInt8 → Outcome → JsonLines → Prop
  /-- A call before it crashed. The writer is not called. -/
  | refused (hpoisoned : before.poisoned = true) :
      Passed before line [] (.failed JsonLines.poisonedError) before
  /-- The writer did not take the whole line, and is not asked to pass on what it has. -/
  | cut {ending : Writer.Ending} {part rest : List UInt8} {after : JsonLines}
      (hopen : before.poisoned = false)
      (hwrite : before.writer.write line = (ending, after.writer)) (hending : ending ≠ .done)
      (hline : part ++ rest = line) (hrest : rest ≠ [])
      (houtput : after.output = before.output ++ part)
      (hflushCalls : after.writer.flushCalls = before.writer.flushCalls)
      (hcrash : after.poisoned = true ↔ ∃ text, answer ending = .crashed text) :
      Passed before line part (answer ending) after
  /-- The writer took the whole line, and was asked once to pass on what it has. -/
  | whole {full : Writer} {ending : Writer.Ending} {after : JsonLines}
      (hopen : before.poisoned = false)
      (hwrite : before.writer.write line = (.done, full))
      (hflush : full.flush = (ending, after.writer))
      (houtput : after.output = before.output ++ line)
      (hflushCalls : after.writer.flushCalls = before.writer.flushCalls + 1)
      (hcrash : after.poisoned = true ↔ ∃ text, answer ending = .crashed text) :
      Passed before line line (answer ending) after

/-- The bytes that a call adds to the output. -/
def part (before : JsonLines) (r : TaskRecord) : List UInt8 :=
  (before.emit r).2.output.drop before.output.length

/-- The bytes that each call adds to the output, one entry for each call and an empty one where a
call adds none. -/
def parts : JsonLines → List TaskRecord → List (List UInt8)
  | _, [] => []
  | s, r :: records => part s r :: parts (s.emit r).2 records

/-- What the calls answer, in the order of the records; a call after a crash answers with the
poisoned lock. -/
def answers (s : JsonLines) (records : List TaskRecord) : List Outcome :=
  (Sink.emitAll Sink.jsonLines s records).1

/-- The sink after the first so many calls, by which a statement can speak of the moment just before
a call and just after it. -/
def sinkAfter (s : JsonLines) (records : List TaskRecord) (count : Nat) : JsonLines :=
  (Sink.emitAll Sink.jsonLines s (records.take count)).2

/-! ### One call -/

section Call

variable {before after : JsonLines} {line p : List UInt8} {outcome : Outcome}

/-- A step that is the last of its call hands the writer back, and closes the sink if it crashed. -/
theorem stopped_spec (ending : Writer.Ending) (w : Writer) :
    ∃ after : JsonLines, JsonLines.stopped ending w = (answer ending, after) ∧ after.writer = w ∧
      (after.poisoned = true ↔ ∃ text, answer ending = .crashed text) := by
  cases ending <;> exact ⟨_, rfl, rfl, by simp [answer]⟩

/-- A write takes a front of the bytes, and is done where it takes them all. -/
theorem write_spec {w w' : Writer} {bytes : List UInt8} {ending : Writer.Ending}
    (hwrite : w.write bytes = (ending, w')) :
    ∃ front rest, front ++ rest = bytes ∧ w'.written = w.written ++ front ∧
      w'.flushCalls = w.flushCalls ∧ (ending = .done ↔ rest = []) := by
  have hle := Writer.taken_writeAll_le w.writes bytes.length
  have hdone := Writer.ending_writeAll_eq_done_iff w.writes bytes.length
  obtain ⟨rfl, rfl⟩ := Prod.mk.inj hwrite
  refine ⟨bytes.take (Writer.writeAll w.writes bytes.length).taken,
    bytes.drop (Writer.writeAll w.writes bytes.length).taken,
    List.take_append_drop .., rfl, rfl, ?_⟩
  -- All bytes are taken exactly if none are left to drop.
  rw [hdone, List.drop_eq_nil_iff]
  omega

/-- A flush is counted and writes nothing, however it ends, so the bytes of a call are those of its
writes. -/
theorem flush_spec {w w' : Writer} {ending : Writer.Ending} (hflush : w.flush = (ending, w')) :
    w'.written = w.written ∧ w'.flushCalls = w.flushCalls + 1 ∧ w'.writeCalls = w.writeCalls := by
  simp only [Writer.flush] at hflush
  split at hflush <;> obtain ⟨-, rfl⟩ := Prod.mk.inj hflush <;> exact ⟨rfl, rfl, rfl⟩

section Open

variable (before : JsonLines) (r : TaskRecord) {ending : Writer.Ending} {w w' : Writer}

/-- Where a line is not written to its end, the call stops there: the writer is not flushed, and how
the write ended is the answer. -/
theorem emit_of_cut (hopen : before.poisoned = false)
    (hwrite : before.writer.write (utf8 r.line) = (ending, w)) (hending : ending ≠ .done) :
    before.emit r = JsonLines.stopped ending w := by
  cases ending with
  | done => exact absurd rfl hending
  | failed cause => simp only [JsonLines.emit, hopen, hwrite, Bool.false_eq_true, if_false]
  | crashed text => simp only [JsonLines.emit, hopen, hwrite, Bool.false_eq_true, if_false]

/-- Where a line is written to its end, the writer is flushed once, and how the flush ended is the
answer. -/
theorem emit_of_whole (hopen : before.poisoned = false)
    (hwrite : before.writer.write (utf8 r.line) = (.done, w)) (hflush : w.flush = (ending, w')) :
    before.emit r = JsonLines.stopped ending w' := by
  simp only [JsonLines.emit, hopen, hwrite, hflush, Bool.false_eq_true, if_false]

end Open

/-- One call does one of the things that `Passed` lists, in whatever state it finds the sink. The
lemmas on a whole list of calls are case analyses of this one. -/
theorem exists_passed_emit (before : JsonLines) (r : TaskRecord) :
    ∃ p, Passed before (utf8 r.line) p (before.emit r).1 (before.emit r).2 := by
  cases hopen : before.poisoned with
  | true =>
    have hemit : before.emit r = (.failed JsonLines.poisonedError, before) := by
      simp [JsonLines.emit, hopen]
    rw [hemit]
    exact ⟨[], .refused hopen⟩
  | false =>
    obtain ⟨ending, w, hwrite⟩ : ∃ ending w, before.writer.write (utf8 r.line) = (ending, w) :=
      ⟨_, _, rfl⟩
    obtain ⟨front, rest, hline, hwritten, hcalls, hdone⟩ := write_spec hwrite
    by_cases hend : ending = .done
    · -- The whole line is taken, and how the call ends is for its flush to say.
      subst hend
      obtain rfl : rest = [] := hdone.mp rfl
      rw [List.append_nil] at hline
      obtain ⟨ending, w', hflush⟩ : ∃ ending w', w.flush = (ending, w') := ⟨_, _, rfl⟩
      obtain ⟨hflushed, hflushCalls, -⟩ := flush_spec hflush
      obtain ⟨after, hstop, rfl, hcrash⟩ := stopped_spec ending w'
      have houtput : after.output = before.output ++ utf8 r.line := by
        rw [← hline]
        exact hflushed.trans hwritten
      rw [emit_of_whole before r hopen hwrite hflush, hstop]
      exact ⟨_, .whole hopen hwrite hflush houtput (by rw [hflushCalls, hcalls]) hcrash⟩
    · -- Some of the line is left, and the call ends as its write did.
      obtain ⟨after, hstop, rfl, hcrash⟩ := stopped_spec ending w
      rw [emit_of_cut before r hopen hwrite hend, hstop]
      exact ⟨_, .cut hopen hwrite hend hline (mt hdone.mpr hend) hwritten hcalls hcrash⟩

/-- A call that has passed leaves the output longer by its part of the line, and otherwise as it
was. -/
theorem Passed.output (h : Passed before line p outcome after) :
    after.output = before.output ++ p := by
  cases h with
  | refused hpoisoned => simp
  | cut hopen hwrite hending hparts hrest houtput hflushCalls hcrash => exact houtput
  | whole hopen hwrite hflush houtput hflushCalls hcrash => exact houtput

/-- What one call does, with its part as the bytes that it adds. All that is said of a list of calls
is said by going through them with this. -/
theorem passed_emit (s : JsonLines) (r : TaskRecord) :
    Passed s (utf8 r.line) (part s r) (s.emit r).1 (s.emit r).2 := by
  obtain ⟨p, h⟩ := exists_passed_emit s r
  rwa [part, h.output, List.drop_left]

/-- The part of a call is the whole line, or the line goes on behind it. -/
theorem Passed.part_cases (h : Passed before line p outcome after) (hline : line ≠ []) :
    p = line ∨ ∃ rest, rest ≠ [] ∧ p ++ rest = line := by
  cases h with
  | refused hpoisoned => exact .inr ⟨line, hline, rfl⟩
  | cut hopen hwrite hending hparts hrest houtput hflushCalls hcrash =>
    exact .inr ⟨_, hrest, hparts⟩
  | whole hopen hwrite hflush houtput hflushCalls hcrash => exact .inl rfl

/-- A call that answers well has written the whole line, with nothing in front of it and nothing
behind. -/
theorem Passed.part_of_ok (h : Passed before line p .ok after) : p = line := by
  generalize houtcome : Outcome.ok = outcome at h
  cases h with
  | refused hpoisoned => cases houtcome
  | @cut ending _ _ _ _ _ hending =>
    -- A write that stops in the line does not end well.
    cases ending with
    | done => exact absurd rfl hending
    | failed cause => cases houtcome
    | crashed text => cases houtcome
  | whole hopen hwrite hflush houtput hflushCalls hcrash => rfl

/-- A call asks for a flush once if its part is the whole line, and else not at all. -/
theorem Passed.flushCalls (h : Passed before line p outcome after) (hline : line ≠ []) :
    after.writer.flushCalls = before.writer.flushCalls + if p = line then 1 else 0 := by
  cases h with
  | refused hpoisoned => simp [hline.symm]
  | cut hopen hwrite hending hparts hrest houtput hflushCalls hcrash =>
    have hne : p ≠ line := by
      rintro rfl
      exact hrest (List.append_right_eq_self.mp hparts)
    simp [hflushCalls, hne]
  | whole hopen hwrite hflush houtput hflushCalls hcrash => simp [hflushCalls]

/-- A call that finds the sink unusable is refused, and leaves it as it was. -/
theorem Passed.of_poisoned (h : Passed before line p outcome after)
    (hpoisoned : before.poisoned = true) :
    outcome = .failed JsonLines.poisonedError ∧ after = before := by
  cases h with
  | refused => exact ⟨rfl, rfl⟩
  | cut hopen => simp [hopen] at hpoisoned
  | whole hopen => simp [hopen] at hpoisoned

/-- The writer is called exactly if the sink is usable, that is, if no earlier call has crashed
inside of it. -/
theorem Passed.writeCalls_lt_iff (h : Passed before line p outcome after) (hline : line ≠ []) :
    before.writer.writeCalls < after.writer.writeCalls ↔ before.poisoned = false := by
  have hpos := Writer.calls_writeAll_pos before.writer.writes (List.length_pos_iff.mpr hline)
  cases h with
  | refused hpoisoned => simp [hpoisoned]
  | cut hopen hwrite =>
    obtain ⟨-, hafter⟩ := Prod.mk.inj hwrite
    rw [← hafter]
    simp only [hopen, iff_true]
    omega
  | whole hopen hwrite hflush =>
    obtain ⟨-, rfl⟩ := Prod.mk.inj hwrite
    -- To pass on what it has is no call that gives bytes to the writer.
    obtain ⟨-, -, hsame⟩ := flush_spec hflush
    rw [hsame]
    simp only [hopen, iff_true]
    omega

/-- A call leaves the sink unusable if it found it so or crashed. A mere failure of the writer
leaves it open for the next record. -/
theorem Passed.poisoned_iff (h : Passed before line p outcome after) :
    after.poisoned = true ↔ before.poisoned = true ∨ ∃ text, outcome = .crashed text := by
  cases h with
  | refused hpoisoned => simp [hpoisoned]
  | cut hopen hwrite hending hparts hrest houtput hflushCalls hcrash => simp [hopen, hcrash]
  | whole hopen hwrite hflush houtput hflushCalls hcrash => simp [hopen, hcrash]

end Call

/-! ### A run of calls -/

section Run

variable (s : JsonLines) (r : TaskRecord) (records : List TaskRecord) (i : Nat)

/-- The sink after some records is that after the first of them, with the others given to it. -/
theorem emitAll_cons_snd :
    (Sink.emitAll Sink.jsonLines s (r :: records)).2
      = (Sink.emitAll Sink.jsonLines (s.emit r).2 records).2 :=
  rfl

/-- The answers come in the order of the records. -/
theorem answers_cons : answers s (r :: records) = (s.emit r).1 :: answers (s.emit r).2 records :=
  rfl

/-- Before the first record the sink is as it was. -/
@[simp] theorem sinkAfter_zero : sinkAfter s records 0 = s := by
  simp [sinkAfter, Sink.emitAll]

/-- The sink after a record and so many more is the sink that the record left, after these. -/
theorem sinkAfter_cons_succ :
    sinkAfter s (r :: records) (i + 1) = sinkAfter (s.emit r).2 records i :=
  rfl

/-- Every record has an answer, also those that come after a crash, for a sink with a poisoned lock
still answers. -/
theorem length_answers : (answers s records).length = records.length := by
  induction records generalizing s with
  | nil => rfl
  | cons r records ih => rw [answers_cons, List.length_cons, ih, List.length_cons]

/-- Every record has its part of the output, if only an empty one. -/
theorem length_parts : (parts s records).length = records.length := by
  induction records generalizing s with
  | nil => rfl
  | cons r records ih => rw [parts, List.length_cons, ih, List.length_cons]

/-- Nothing but the parts of the calls comes into the output, in the order of the calls. Statements
on the output are read off these parts. -/
theorem output_emitAll :
    (Sink.emitAll Sink.jsonLines s records).2.output = s.output ++ (parts s records).flatten := by
  induction records generalizing s with
  | nil => simp [Sink.emitAll, parts]
  | cons r records ih =>
    rw [emitAll_cons_snd, ih, (passed_emit s r).output, parts, List.flatten_cons,
      List.append_assoc]

/-- Over a run, a flush is asked for once for each part that is a whole line. -/
theorem flushCalls_emitAll :
    (Sink.emitAll Sink.jsonLines s records).2.writer.flushCalls = s.writer.flushCalls
      + ((parts s records).zip records).countP fun (p, r) => p = utf8 r.line := by
  induction records generalizing s with
  | nil => simp [Sink.emitAll, parts]
  | cons r records ih =>
    rw [emitAll_cons_snd, ih, (passed_emit s r).flushCalls (utf8_line_ne_nil r), parts,
      List.zip_cons_cons, List.countP_cons]
    simp only [decide_eq_true_eq]
    omega

variable {s r records i}

/-- What the calls of a run do, each from the sink that the calls before it left. -/
theorem passed_getElem? (hr : records[i]? = some r) :
    ∃ p outcome, (parts s records)[i]? = some p ∧ (answers s records)[i]? = some outcome ∧
      Passed (sinkAfter s records i) (utf8 r.line) p outcome (sinkAfter s records (i + 1)) := by
  induction records generalizing s i with
  | nil => simp at hr
  | cons r₀ records ih =>
    cases i with
    | zero =>
      obtain rfl : r₀ = r := by simpa using hr
      refine ⟨part s r₀, (s.emit r₀).1, rfl, rfl, ?_⟩
      simpa [sinkAfter_cons_succ] using passed_emit s r₀
    | succ i => exact ih hr

/-- A call finds the sink unusable where it was so at the start or a call before it crashed. -/
theorem poisoned_sinkAfter (hi : i ≤ records.length) :
    (sinkAfter s records i).poisoned = true ↔
      s.poisoned = true ∨ ∃ j < i, ∃ text, (answers s records)[j]? = some (.crashed text) := by
  induction i with
  | zero => simp
  | succ i ih =>
    -- The call before this one crashed, or the sink was unusable before it already.
    obtain ⟨p, outcome, -, houtcome, hpassed⟩ :=
      passed_getElem? (s := s) (List.getElem?_eq_getElem (show i < records.length from hi))
    rw [hpassed.poisoned_iff, ih (by omega), or_assoc, Nat.exists_lt_succ_right, houtcome]
    simp

end Run

/-- What records leave in a fresh sink whose writer keeps to any script. The output is what the
calls add to it, one after the other, and a flush is asked for once for each line that is added as a
whole. Every call does what `Passed` lists, and is refused exactly if a call before it crashed. -/
theorem accounted_emitAll (writes : List Writer.WriteAnswer) (flushes : List Writer.FlushAnswer)
    (records : List TaskRecord) :
    let s := JsonLines.start (.scripted writes flushes)
    let final := (Sink.emitAll Sink.jsonLines s records).2
    final.output = (parts s records).flatten ∧
      final.writer.flushCalls
        = (((parts s records).zip records).countP fun (p, r) => p = utf8 r.line) ∧
      (parts s records).length = records.length ∧ (answers s records).length = records.length ∧
      ∀ i r, records[i]? = some r →
        (∃ p outcome, (parts s records)[i]? = some p ∧ (answers s records)[i]? = some outcome ∧
          Passed (sinkAfter s records i) (utf8 r.line) p outcome (sinkAfter s records (i + 1))) ∧
        ((sinkAfter s records i).poisoned = true ↔
          ∃ j < i, ∃ text, (answers s records)[j]? = some (.crashed text)) := by
  intro s final
  refine ⟨output_emitAll s records, (flushCalls_emitAll s records).trans (Nat.zero_add _),
    length_parts s records, length_answers s records, fun i r hr => ⟨passed_getElem? hr, ?_⟩⟩
  have hi : i < records.length := (List.getElem?_eq_some_iff.mp hr).1
  rw [poisoned_sinkAfter (Nat.le_of_lt hi)]
  simp [s, JsonLines.start]

end EchoBench.Proofs.Sink
